/-
Module: SourceRecovery.Agent.Query
Layer: Agent
Purpose: Questions to agents. All agents get the same question; a reply goes to the place of its agent, so the
  order in which replies arrive does not count, and the best code in them is taken.
Imports: SourceRecovery.Agent.Response, SourceRecovery.Host, SourceRecovery.Settings.Basic
Trusted boundary: none
Main exports: askAgent, receive, collectReplies, queryAgents, bestOf, bestResponse, availableAgents
Open obligations: none
-/
import SourceRecovery.Agent.Response
import SourceRecovery.Host
import SourceRecovery.Settings.Basic

namespace SourceRecovery

variable {σ : Type} [Source.Grammar]

namespace AgentSpec

/-- The command for a question. -/
def command (spec : AgentSpec) (prompt : String) : Command :=
  { program := spec.programName
    args := spec.arguments prompt
    milliseconds := spec.seconds * 1000 }

/-- The reply in what an agent has done. Only success with some output counts. -/
def replyIn (spec : AgentSpec) : Except SpawnFault Completion → Except Failure String
  | .error .notFound => .error (.agentUnavailable spec.programName)
  | .error fault => .error (.inputOutput fault.message)
  | .ok done =>
    if done.exit = .timedOut then .error (.agentTimeout spec.kind.id)
    else if done.success && !Text.isBlankText done.stdout then .ok done.stdout
    else .error (.agentUnavailable (spec.kind.id ++ " produced no usable output"))

end AgentSpec

/-- The reply of an agent to a question. -/
def askAgent (host : Host σ) (spec : AgentSpec) (prompt : String) :
    StateM σ (Except Failure String) := do
  return spec.replyIn (← host.run (spec.command prompt))

/-- A reply put at the place of its agent. -/
def putReply (places : List (Option String)) (arrival : Nat × Except Failure String) :
    List (Option String) :=
  match arrival.2 with
  | .ok reply => places.set arrival.1 (some reply)
  | .error _ => places

/-- The places after replies have arrived. No more replies are waited for than are pending; the list ends when
    the time for all agents is over. -/
def receive : (pending : Nat) → (places : List (Option String)) →
    (arrivals : List (Nat × Except Failure String)) → List (Option String)
  | 0, places, _ => places
  | _ + 1, places, [] => places
  | pending + 1, places, arrival :: later => receive pending (putReply places arrival) later

/-- The replies by agent, from the replies as they arrive. -/
def collectReplies (agents : Nat) (arrivals : List (Nat × Except Failure String)) :
    List (Option String) :=
  receive agents (List.replicate agents none) arrivals

/-- The replies of all agents to a question; nothing for an agent that failed. -/
def queryAgents (host : Host σ) (agents : List AgentSpec) (prompt : String) :
    StateM σ (List (Option String)) := do
  let replies ← agents.mapM fun spec => askAgent host spec prompt
  return collectReplies agents.length (replies.mapIdx Prod.mk)

/-- The best code in replies. -/
def bestOf (replies : List (Option String)) : Option String :=
  Response.selectBest (replies.filterMap fun reply => reply.bind Response.extractCode)

/-- The best code in the replies of all agents. -/
def bestResponse (host : Host σ) (agents : List AgentSpec) (prompt : String) :
    StateM σ (Option String) := do
  return bestOf (← queryAgents host agents prompt)

/-- A file where programs are looked for, with its permission bits. -/
structure ProgramFile where
  name : String
  mode : Nat
deriving DecidableEq, Repr

/-- Someone may run the file. -/
def ProgramFile.isExecutable (file : ProgramFile) : Bool :=
  file.mode &&& 0o111 != 0

/-- The agents whose programs are among the files, in order of preference. -/
def availableAgents (files : List ProgramFile) : List AgentKind :=
  AgentKind.all.filter fun kind =>
    files.any fun file => file.name == kind.id && file.isExecutable

end SourceRecovery
