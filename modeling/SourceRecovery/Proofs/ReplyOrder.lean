/-
Module: SourceRecovery.Proofs.ReplyOrder
Layer: Proofs
Purpose: Replies in any order of arrival. A reply goes to the place of its agent, and two replies go to different places,
  so the order in which they arrive does not show. The code that is taken is then decided by the places alone: the
  highest score wins, and of equal scores the agent that comes first.
Imports: Mathlib.Data.List.Forall2, Mathlib.Data.List.Induction, SourceRecovery.Agent.Query,
  SourceRecovery.Proofs.RunOutcome
Trusted boundary: none
Main exports: collectReplies_of_arrivals, WinsAt, bestOf_eq_some_iff, FixedReplies
Open obligations: none
-/
import Mathlib.Data.List.Forall2
import Mathlib.Data.List.Induction
import SourceRecovery.Agent.Query
import SourceRecovery.Proofs.RunOutcome

namespace SourceRecovery

/-! ### Places -/

/-- A reply as it arrives: the number of its agent, and its text or why there is none. -/
abbrev Arrival := Nat × Except Failure String

/-- While no more replies arrive than are pending, every one of them is put at its place. -/
theorem receive_eq_foldl {pending : Nat} {arrivals : List Arrival} (places : List (Option String))
    (all : arrivals.length ≤ pending) : receive pending places arrivals = arrivals.foldl putReply places := by
  induction arrivals generalizing pending places with
  | nil =>
      cases pending <;> rfl
  | cons arrival later ih =>
      cases pending with
      | zero =>
          cases all
      | succ pending =>
          rw [receive, List.foldl_cons]
          exact ih _ (Nat.le_of_succ_le_succ all)

/-- Replies of different agents do not get into each other's way. -/
theorem putReply_comm (places : List (Option String)) {first second : Arrival} (apart : first.1 ≠ second.1) :
    putReply (putReply places first) second = putReply (putReply places second) first := by
  obtain ⟨place, reply⟩ := first
  obtain ⟨otherPlace, otherReply⟩ := second
  cases reply with
  | error _ => rfl
  | ok text =>
      cases otherReply with
      | error _ => rfl
      | ok otherText => exact List.set_comm _ _ apart

/-- Replies that arrive in the order of their agents fill the places from the front. -/
theorem foldl_putReply_mapIdx (replies : List (Except Failure String)) (front : List (Option String)) :
    (replies.mapIdx fun i reply => (front.length + i, reply)).foldl putReply
        (front ++ List.replicate replies.length none) =
      front ++ replies.map Except.toOption := by
  induction replies generalizing front with
  | nil => rfl
  | cons reply replies ih =>
      have filled : putReply (front ++ List.replicate (reply :: replies).length none) (front.length + 0, reply) =
          (front ++ [reply.toOption]) ++ List.replicate replies.length none := by
        cases reply <;> simp [putReply, Except.toOption, List.replicate_succ]
      have later := ih (front ++ [reply.toOption])
      rw [List.mapIdx_cons, List.foldl_cons, filled]
      simp only [List.length_append, List.length_singleton, Nat.add_assoc, Nat.add_comm 1, List.append_assoc,
        List.singleton_append] at later ⊢
      exact later

/-- However the replies arrive, each place holds the reply of its agent. -/
theorem collectReplies_of_arrivals {replies : List (Except Failure String)} {arrivals : List Arrival}
    (arrive : arrivals.Perm (replies.mapIdx Prod.mk)) :
    collectReplies replies.length arrivals = replies.map Except.toOption := by
  have length : arrivals.length = replies.length := by
    rw [arrive.length_eq, List.length_mapIdx]
  have swap : ∀ first ∈ arrivals, ∀ second ∈ arrivals, ∀ places,
      putReply (putReply places first) second = putReply (putReply places second) first := by
    intro first isFirst second isSecond places
    by_cases same : first.1 = second.1
    -- an agent has one reply, so two arrivals at one place are the same
    · obtain ⟨i, inRange, rfl⟩ := List.mem_mapIdx.mp (arrive.subset isFirst)
      obtain ⟨j, inRange', rfl⟩ := List.mem_mapIdx.mp (arrive.subset isSecond)
      cases same
      rfl
    · exact putReply_comm places same
  have inOrder := foldl_putReply_mapIdx replies []
  simp only [List.length_nil, Nat.zero_add, List.nil_append] at inOrder
  rw [collectReplies, receive_eq_foldl _ (Nat.le_of_eq length), arrive.foldl_eq' swap]
  exact inOrder

/-! ### The code that is taken -/

section Choice

variable [Source.Grammar]

/-- The code in the reply at a place. -/
def codeAt (places : List (Option String)) (agent : Nat) : Option String :=
  (places[agent]?.bind id).bind Response.extractCode

/-- The code of an agent is the one to take: no code has a higher score, and the codes of the agents before have
    lower ones. -/
structure WinsAt (places : List (Option String)) (agent : Nat) (code : String) : Prop where
  given : codeAt places agent = some code
  highest : ∀ other rival, codeAt places other = some rival →
    Response.scoreCode rival ≤ Response.scoreCode code
  first : ∀ other < agent, ∀ rival, codeAt places other = some rival →
    Response.scoreCode rival < Response.scoreCode code

/-- Only one code is the one to take. -/
theorem WinsAt.unique {places : List (Option String)} {agent other : Nat} {code rival : String}
    (wins : WinsAt places agent code) (winsToo : WinsAt places other rival) : code = rival := by
  rcases Nat.lt_trichotomy agent other with before | same | behind
  · have lower := winsToo.first agent before code wins.given
    have higher := wins.highest other rival winsToo.given
    omega
  · subst same
    exact Option.some.inj (wins.given.symm.trans winsToo.given)
  · have lower := wins.first other behind rival winsToo.given
    have higher := winsToo.highest agent code wins.given
    omega

/-- The codes in places with one more reply: those there were, and the code of the last agent. -/
theorem codeAt_concat (places : List (Option String)) (reply : Option String) (agent : Nat) :
    codeAt (places ++ [reply]) agent =
      if agent = places.length then reply.bind Response.extractCode else codeAt places agent := by
  unfold codeAt
  split
  case isTrue atEnd =>
    subst atEnd
    rw [List.getElem?_concat_length]
    rfl
  case isFalse elsewhere =>
    rcases Nat.lt_or_gt_of_ne elsewhere with before | behind
    · rw [List.getElem?_append_left before]
    · rw [List.getElem?_eq_none (Nat.le_of_lt behind), List.getElem?_eq_none]
      rw [List.length_append]
      exact behind

theorem codeAt_length (places : List (Option String)) : codeAt places places.length = none := by
  unfold codeAt
  rw [List.getElem?_eq_none (Nat.le_refl _)]
  rfl

/-- One more reply is compared with the best so far, when there is code in it. -/
theorem bestOf_concat (places : List (Option String)) (reply : Option String) :
    bestOf (places ++ [reply]) =
      match reply.bind Response.extractCode with
      | none => bestOf places
      | some code => Response.better (bestOf places) code := by
  unfold bestOf Response.selectBest
  rw [List.filterMap_append, List.foldl_append]
  cases found : reply.bind Response.extractCode with
  | none => simp [found]
  | some code => simp [found]

/-- A code that wins still wins after a reply without code, or with code that has no higher score. -/
theorem WinsAt.concat {places : List (Option String)} {agent : Nat} {code : String} (wins : WinsAt places agent code)
    {reply : Option String}
    (lower : ∀ rival, reply.bind Response.extractCode = some rival →
      Response.scoreCode rival ≤ Response.scoreCode code) :
    WinsAt (places ++ [reply]) agent code := by
  have inRange : agent ≠ places.length := by
    rintro rfl
    cases (codeAt_length places).symm.trans wins.given
  refine ⟨?_, ?_, ?_⟩
  · rw [codeAt_concat, if_neg inRange]
    exact wins.given
  · intro other rival given
    rw [codeAt_concat] at given
    split at given
    case isTrue => exact lower rival given
    case isFalse => exact wins.highest other rival given
  · intro other before rival given
    rw [codeAt_concat] at given
    split at given
    case isTrue atEnd =>
      -- no agent comes behind the last one
      subst atEnd
      have behind := wins.given
      unfold codeAt at behind
      rw [List.getElem?_eq_none (Nat.le_of_lt before)] at behind
      cases behind
    case isFalse => exact wins.first other before rival given

/-- The code of the last agent wins when all codes before it have lower scores. -/
theorem winsAt_last {places : List (Option String)} {reply : Option String} {last : String}
    (found : reply.bind Response.extractCode = some last)
    (lower : ∀ other rival, codeAt places other = some rival →
      Response.scoreCode rival < Response.scoreCode last) :
    WinsAt (places ++ [reply]) places.length last := by
  refine ⟨?_, fun other rival given => ?_, fun other before rival given => ?_⟩
  · rw [codeAt_concat, if_pos rfl, found]
  · rw [codeAt_concat] at given
    split at given
    case isTrue =>
      cases found.symm.trans given
      exact Int.le_refl _
    case isFalse => exact Int.le_of_lt (lower other rival given)
  · rw [codeAt_concat, if_neg (Nat.ne_of_lt before)] at given
    exact lower other rival given

/-- What is taken wins, and nothing is taken only when there is no code. -/
theorem bestOf_spec (places : List (Option String)) :
    (∀ code, bestOf places = some code → ∃ agent, WinsAt places agent code) ∧
    (bestOf places = none → ∀ agent, codeAt places agent = none) := by
  -- the replies are looked at from the first to the last, so the induction is on the last one
  induction places using List.reverseRecOn with
  | nil =>
      refine ⟨fun code taken => ?_, fun _ agent => rfl⟩
      cases taken
  | append_singleton places reply ih =>
      rw [bestOf_concat]
      cases found : reply.bind Response.extractCode with
      | none =>
          refine ⟨fun code taken => ?_, fun missing agent => ?_⟩
          · obtain ⟨agent, wins⟩ := ih.1 code taken
            exact ⟨agent, wins.concat fun rival given => by cases found.symm.trans given⟩
          · rw [codeAt_concat]
            split
            case isTrue => exact found
            case isFalse => exact ih.2 missing agent
      | some last =>
          refine ⟨fun code taken => ?_, fun missing => ?_⟩
          · cases known : bestOf places with
            | none =>
                rw [known] at taken
                cases taken
                exact ⟨_, winsAt_last found fun other rival given => by cases (ih.2 known other).symm.trans given⟩
            | some top =>
                obtain ⟨agent, wins⟩ := ih.1 top known
                simp only [known, Response.better] at taken
                split at taken
                case isTrue higher =>
                  cases taken
                  exact ⟨_, winsAt_last found fun other rival given =>
                    Int.lt_of_le_of_lt (wins.highest other rival given) higher⟩
                case isFalse notHigher =>
                  cases taken
                  refine ⟨agent, wins.concat fun rival given => ?_⟩
                  cases found.symm.trans given
                  exact Int.not_lt.mp notHigher
          · cases known : bestOf places with
            | none =>
                rw [known] at missing
                cases missing
            | some top =>
                simp only [known, Response.better] at missing
                split at missing <;> cases missing

/-- The code that is taken is the one that wins. -/
theorem bestOf_eq_some_iff {places : List (Option String)} {code : String} :
    bestOf places = some code ↔ ∃ agent, WinsAt places agent code := by
  refine ⟨(bestOf_spec places).1 code, fun ⟨agent, wins⟩ => ?_⟩
  cases taken : bestOf places with
  | none => cases ((bestOf_spec places).2 taken agent).symm.trans wins.given
  | some other =>
      obtain ⟨_, winsToo⟩ := (bestOf_spec places).1 other taken
      rw [wins.unique winsToo]

theorem bestOf_eq_none_iff {places : List (Option String)} :
    bestOf places = none ↔ ∀ agent, codeAt places agent = none := by
  refine ⟨(bestOf_spec places).2, fun empty => ?_⟩
  cases taken : bestOf places with
  | none => rfl
  | some code =>
      obtain ⟨agent, wins⟩ := (bestOf_spec places).1 code taken
      cases (empty agent).symm.trans wins.given

end Choice

/-! ### Agents with fixed replies -/

section Query

variable {σ : Type} {host : Host σ} {prompt : String} {agents : List AgentSpec}
  {replies : List (Except Failure String)}

/-- Every agent has one reply to the question, whatever the host has done before. -/
def FixedReplies (host : Host σ) (prompt : String) (agents : List AgentSpec)
    (replies : List (Except Failure String)) : Prop :=
  List.Forall₂ (fun spec reply => ∀ s, ((askAgent host spec prompt).run s).1 = reply) agents replies

/-- All agents are asked, and each gives its reply. -/
theorem FixedReplies.mapM (fixed : FixedReplies host prompt agents replies) (s : σ) :
    ((agents.mapM fun spec => askAgent host spec prompt).run s).1 = replies := by
  induction fixed generalizing s with
  | nil => rfl
  | cons reply _ ih =>
      rw [List.mapM_cons, Run.run_bind, Run.run_bind, Run.run_pure]
      simp only [reply s, ih]

theorem FixedReplies.queryAgents (fixed : FixedReplies host prompt agents replies) (s : σ) :
    ((queryAgents host agents prompt).run s).1 = replies.map Except.toOption := by
  rw [SourceRecovery.queryAgents, Run.run_bind, Run.run_pure, fixed.mapM s, List.Forall₂.length_eq fixed]
  exact collectReplies_of_arrivals (List.Perm.refl _)

/-- Agents are asked at the same time, and the order in which their replies arrive does not show: every place holds the
    reply of its agent, and the code that is taken is the one with the highest score, of equals the one of the first
    agent; none is taken exactly when no reply has code. -/
theorem replies_in_any_order [Source.Grammar] (fixed : FixedReplies host prompt agents replies) {arrivals : List Arrival}
    (arrive : arrivals.Perm (replies.mapIdx Prod.mk)) (s : σ) :
    collectReplies agents.length arrivals = replies.map Except.toOption ∧
    ((SourceRecovery.queryAgents host agents prompt).run s).1 = collectReplies agents.length arrivals ∧
    ((bestResponse host agents prompt).run s).1 = bestOf (collectReplies agents.length arrivals) ∧
    (∀ code, bestOf (collectReplies agents.length arrivals) = some code ↔
      ∃ agent, WinsAt (replies.map Except.toOption) agent code) ∧
    (bestOf (collectReplies agents.length arrivals) = none ↔
      ∀ agent, codeAt (replies.map Except.toOption) agent = none) := by
  have collected : collectReplies agents.length arrivals = replies.map Except.toOption := by
    rw [List.Forall₂.length_eq fixed]
    exact collectReplies_of_arrivals arrive
  have queried := fixed.queryAgents s
  rw [collected]
  refine ⟨rfl, queried, ?_, fun code => bestOf_eq_some_iff, bestOf_eq_none_iff⟩
  rw [bestResponse, Run.run_bind, Run.run_pure, queried]

end Query

/-- Three agents, told apart by their programs. -/
def threeAgents : List AgentSpec :=
  [⟨.claude, some "slow", none, none, none⟩, ⟨.claude, some "left", none, none, none⟩,
    ⟨.opencode, some "right", none, none, none⟩]

/-- The first of them is late, and the two others give code of the same score. -/
def threeHost : Host Unit where
  run command := pure (.ok
    (if command.program = "slow" then ⟨"", "", .timedOut⟩
     else if command.program = "left" then ⟨"```\nx = 1\n```", "", .exited 0⟩
     else ⟨"```\ny = 2\n```", "", .exited 0⟩))

def threeReplies : List (Except Failure String) :=
  [.error (.agentTimeout "claude"), .ok "```\nx = 1\n```", .ok "```\ny = 2\n```"]

/-- The last agent answers first. -/
def lastFirst : List Arrival :=
  [(2, .ok "```\ny = 2\n```"), (0, .error (.agentTimeout "claude")), (1, .ok "```\nx = 1\n```")]

theorem lastFirst_perm : lastFirst.Perm (threeReplies.mapIdx Prod.mk) := by
  have inOrder : threeReplies.mapIdx Prod.mk =
      [(0, .error (.agentTimeout "claude")), (1, .ok "```\nx = 1\n```")] ++ [(2, .ok "```\ny = 2\n```")] := rfl
  rw [inOrder]
  exact (List.perm_append_singleton _ _).symm

set_option maxRecDepth 4000 in
/-- The code of the second agent is taken although the third one has code of the same score and answers first. -/
theorem replies_in_any_order_tie :
    FixedReplies threeHost "?" threeAgents threeReplies ∧
    collectReplies 3 lastFirst = [none, some "```\nx = 1\n```", some "```\ny = 2\n```"] ∧
    ((bestResponse threeHost threeAgents "?").run ()).1 = some "x = 1" := by
  have fixed : FixedReplies threeHost "?" threeAgents threeReplies :=
    .cons (fun _ => rfl) (.cons (fun _ => rfl) (.cons (fun _ => rfl) .nil))
  obtain ⟨collected, _, best, _⟩ := replies_in_any_order fixed lastFirst_perm ()
  have taken : bestOf [none, some "```\nx = 1\n```", some "```\ny = 2\n```"] = some "x = 1" := by decide +kernel
  exact ⟨fixed, collected, best.trans ((congrArg bestOf collected).trans taken)⟩

end SourceRecovery
