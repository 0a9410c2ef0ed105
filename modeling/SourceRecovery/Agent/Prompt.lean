/-
Module: SourceRecovery.Agent.Prompt
Layer: Agent
Purpose: What agents are asked. A template has places in braces; they are filled in one pass, so that what is
  put in is never looked at again, and braces around anything else stay as they are.
Imports: SourceRecovery.Text.Basic
Trusted boundary: none
Main exports: fill, functionPrompt, classPrompt, syntaxFixPrompt, wholeFilePrompt
Open obligations: none
-/
import SourceRecovery.Text.Basic

namespace SourceRecovery.Prompt

/-- The value of the place whose name and closing brace start a text, with the length of both. -/
def placeAt? (values : List (String × String)) (cs : List Char) : Option (List Char × Nat) :=
  (values.find? fun entry => Text.Chars.startsWith (entry.1.toList ++ ['\x7d']) cs).map fun entry =>
    (entry.2.toList, entry.1.toList.length + 1)

/-- A template with its places filled; `skip` characters belong to a place that has been filled. -/
def fillFrom (values : List (String × String)) : (skip : Nat) → List Char → List Char
  | _, [] => []
  | skip + 1, _ :: cs => fillFrom values skip cs
  | 0, c :: cs =>
    if c == '\x7b' then
      match placeAt? values cs with
      | some (value, length) => value ++ fillFrom values length cs
      | none => c :: fillFrom values 0 cs
    else c :: fillFrom values 0 cs

/-- A template with its places filled. -/
def fill (template : String) (values : List (String × String)) : String :=
  String.ofList (fillFrom values 0 template.toList)

/-- The template for a function. -/
def functionTemplate : String :=
  Text.join
    ["Reconstruct this incomplete Python function from its bytecode.",
     "",
     "## Incomplete Source (from pycdc):",
     "```python",
     "\x7bincomplete_source\x7d",
     "```",
     "",
     "## Bytecode Disassembly (from pycdas):",
     "```",
     "\x7bbytecode\x7d",
     "```",
     "",
     "## Context (imports and class):",
     "```python",
     "\x7bcontext\x7d",
     "```",
     "",
     "Rules:",
     "- Output ONLY the complete Python function/method",
     "- Preserve the exact signature and indentation level",
     "- Use bytecode constants and names to infer implementation",
     "- No explanations, just code in a Python code block",
     "",
     "Output the complete Python code:"]

/-- The template for a class. -/
def classTemplate : String :=
  Text.join
    ["Reconstruct this incomplete Python class from its bytecode.",
     "",
     "## Incomplete Source (shows class with just 'pass'):",
     "```python",
     "\x7bincomplete_source\x7d",
     "```",
     "",
     "## Class Bytecode (from pycdas):",
     "```",
     "\x7bbytecode\x7d",
     "```",
     "",
     "## Methods this class should have (from bytecode):",
     "\x7bmethods\x7d",
     "",
     "## Context (imports):",
     "```python",
     "\x7bcontext\x7d",
     "```",
     "",
     "Rules:",
     "- Output ONLY the complete Python class",
     "- Include all methods listed above with FULL implementations",
     "- NEVER use 'pass' as a method body - always infer the real implementation from bytecode",
     "- Look at [Constants], [Names], [Disassembly] sections to understand what each method does",
     "- Preserve the class name and base class",
     "- No explanations, just code in a Python code block",
     "",
     "Output the complete Python class:"]

/-- The template for a text that is not acceptable source. -/
def syntaxFixTemplate : String :=
  Text.join
    ["Fix the syntax errors in this Python code from a decompiler.",
     "",
     "## Source with syntax errors:",
     "```python",
     "\x7bsource\x7d",
     "```",
     "",
     "## Syntax error:",
     "\x7berror\x7d",
     "",
     "## Bytecode for reference (from pycdas):",
     "```",
     "\x7bbytecode\x7d",
     "```",
     "",
     "Rules:",
     "- Fix ONLY the syntax errors, preserve everything else",
     "- Use bytecode to understand what the code should do",
     "- Keep all function/class signatures intact",
     "- Output the complete fixed Python code in a code block",
     "- No explanations, just the fixed code",
     "",
     "Output the fixed Python code:"]

/-- The template for a whole text. -/
def wholeFileTemplate : String :=
  Text.join
    ["The decompiler produced invalid Python code. Reconstruct valid Python from bytecode.",
     "",
     "## Invalid Source (from pycdc - has syntax errors):",
     "```python",
     "\x7bsource\x7d",
     "```",
     "",
     "## Bytecode Disassembly (from pycdas):",
     "```",
     "\x7bbytecode\x7d",
     "```",
     "",
     "Rules:",
     "- Output ONLY valid Python code",
     "- Preserve the structure (imports, classes, functions)",
     "- Use bytecode to infer correct implementation",
     "- No explanations, just code in a Python code block",
     "",
     "Output the complete valid Python code:"]

/-- The question for a function. -/
def functionPrompt (signature bytecode context : String) : String :=
  fill functionTemplate
    [("incomplete_source", signature ++ ":\n    pass"), ("bytecode", bytecode), ("context", context)]

/-- The question for a class. -/
def classPrompt (name base : String) (members : List String) (bytecode context : String) : String :=
  let methods := if members.isEmpty then "unknown" else Text.joinWith ", " members
  fill classTemplate
    [("incomplete_source", "class " ++ name ++ "(" ++ base ++ "):\n    pass"), ("bytecode", bytecode),
     ("methods", methods), ("context", context)]

/-- The question for a text that is not acceptable source, with the reason. -/
def syntaxFixPrompt (source error bytecode : String) : String :=
  fill syntaxFixTemplate [("source", source), ("error", error), ("bytecode", bytecode)]

/-- The question for a whole text. -/
def wholeFilePrompt (source bytecode : String) : String :=
  fill wholeFileTemplate [("source", source), ("bytecode", bytecode)]

end SourceRecovery.Prompt
