import CodeAudit.Execution.Service
import CodeAudit.Proofs.Execution.Series

/-!
The limits in force. The object that a sandbox goes by is in nobody else's hands, so that only an override that succeeds
changes the limits, and every child is given the limits of the time at which it is started.
-/
namespace CodeAudit.Sandbox

open Host (Took)

/-- What a call makes of the limits in force: an override that makes no limits leaves them as they are, and so does any
other call. -/
def Call.change (call : Call) (l : Limits) : Limits :=
  match call with
  | .setLimits fields => (l.overridden? fields).getD l
  | _ => l

/-- The limits in force after some calls. -/
def limitsAfter (l : Limits) (calls : List Call) : Limits :=
  calls.foldl (fun l call => call.change l) l

/-- A call goes by the limits in force. The child of a run is given these or the run's own, those of test cases are
given these but for a case's own time, and no other call has a child, as a probe only asks the interpreter for its
version; an override or a look at the limits shows what is in force after it. -/
def Call.GoesBy (inForce : Limits) (ls : List Launch) (answer : Answer) : Call → Prop
  | .execute _ _ limits =>
    let l := limits.getD inForce
    ls.length ≤ 1 ∧ (∀ child ∈ ls, child.Given l.memoryMb l.timeMs l.cores) ∧ ∃ r, answer = .result r
  | .executeTests _ cases _ =>
    (∃ ran, ran <+: cases ∧
      List.Forall₂ (fun c child => child.Given inForce.memoryMb (c.timeIn inForce) inForce.cores) ran ls) ∧
      ∃ rs, answer = .results rs
  | .setLimits fields =>
    ls = [] ∧
      match inForce.overridden? fields with
      | some l => answer = .limits (.ok (.ofLimits l))
      | none => ∃ fault, answer = .limits (.error fault)
  | .getLimits => ls = [] ∧ answer = .limits (.ok (.ofLimits inForce))
  | .assign _ _ _ => ls = [] ∧ answer = .assigned
  | .validate _ _ => ls = [] ∧ ∃ p, answer = .problem p
  | .probe outcome => ls = [] ∧ answer = .available (isAvailable outcome)

/-- Every call of a sequence has an answer and children, none or some, and goes by the limits in force at its time. -/
structure AllGoBy (first : Limits) (calls : List Call) (children : List (List Launch)) (answers : List Answer) :
    Prop where
  children_length : children.length = calls.length
  answers_length : answers.length = calls.length
  goesBy : ∀ (i : Nat) (call : Call) (ls : List Launch) (answer : Answer),
    calls[i]? = some call → children[i]? = some ls → answers[i]? = some answer →
    call.GoesBy (limitsAfter first (calls.take i)) ls answer

namespace AllGoBy

lemma nil (first : Limits) : AllGoBy first [] [] [] :=
  ⟨rfl, rfl, fun _ _ _ _ hcall => by cases hcall⟩

lemma cons {first : Limits} {call : Call} {ls : List Launch} {answer : Answer} {calls : List Call}
    {children : List (List Launch)} {answers : List Answer} (h : call.GoesBy first ls answer)
    (hrest : AllGoBy (call.change first) calls children answers) :
    AllGoBy first (call :: calls) (ls :: children) (answer :: answers) where
  children_length := congrArg (· + 1) hrest.children_length
  answers_length := congrArg (· + 1) hrest.answers_length
  goesBy i call' ls' answer' hcall hls hanswer := by
    cases i with
    | zero =>
      cases hcall
      cases hls
      cases hanswer
      exact h
    | succ j => exact hrest.goesBy j call' ls' answer' hcall hls hanswer

end AllGoBy

section Runs

variable (box : Sandbox) (code : Option (List Char)) (language : Option String) (host : Host)

lemma execute_took (limits : Option Limits) :
    let l := limits.getD box.limits
    ∃ ls, Took ls host ((box.execute code language limits).run host).2 ∧ ls.length ≤ 1 ∧
      ∀ child ∈ ls, child.Given l.memoryMb l.timeMs l.cores := by
  unfold execute
  cases box.problem? code language with
  | some problem => exact ⟨[], .refl host, Nat.zero_le 1, by simp⟩
  | none =>
    have hone := box.run_took (limits.getD box.limits) (code.getD []) 0
      (SafetyAssessment.ofCode (code.getD [])).risks host
    rcases hone with ⟨child, htook, -, hgiven⟩ | ⟨fault, hrun⟩
    · exact ⟨[child], htook, Nat.le_refl 1, by simpa using hgiven⟩
    · exact ⟨[], by simpa [hrun] using Took.refl host, Nat.zero_le 1, by simp⟩

lemma executeTests_took (cases : List TestCase) :
    ∃ ran ls, ran <+: cases ∧ Took ls host ((box.executeTests code cases language).run host).2 ∧
      List.Forall₂ (fun c child => child.Given box.limits.memoryMb (c.timeIn box.limits) box.limits.cores) ran ls := by
  unfold executeTests
  cases box.problem? code language with
  | some problem => exact ⟨[], [], List.nil_prefix, .refl host, .nil⟩
  | none =>
    obtain ⟨ran, ls, hran, htook, hcases, -⟩ :=
      box.runCases_took (code.getD []) (SafetyAssessment.ofCode (code.getD [])).risks cases host
    exact ⟨ran, ls, hran, htook, hcases.imp fun _ _ hcase => hcase.given⟩

end Runs

namespace Service

variable {s : Service} {box : Sandbox}

/-- The service is that of the sandbox: its own object holds the sandbox's limits, and no caller has its address. -/
structure Serves (s : Service) (box : Sandbox) : Prop where
  own_object : s.objects[s.own]? = some (.ofLimits box.limits)
  own_kept : s.own ∉ s.handedOut
  handedOut_lt : ∀ address ∈ s.handedOut, address < s.objects.length
  maxCodeLength : s.maxCodeLength = box.maxCodeLength
  interpreter : s.interpreter = box.interpreter

lemma start_serves (box : Sandbox) : (start box).Serves box :=
  ⟨rfl, List.not_mem_nil, fun _ h => absurd h List.not_mem_nil, rfl, rfl⟩

namespace Serves

lemma sandbox?_eq (h : s.Serves box) : s.sandbox? = some box := by
  obtain ⟨limits, maxCodeLength, interpreter⟩ := box
  simp [sandbox?, h.own_object, h.maxCodeLength, h.interpreter]

lemma own_lt (h : s.Serves box) : s.own < s.objects.length :=
  (List.getElem?_eq_some_iff.mp h.own_object).1

/-- A new object may take the place of the sandbox's own, since its address is new as well. -/
lemma adopt (h : s.Serves box) (l : Limits) : (s.adopt (.ofLimits l)).Serves { box with limits := l } where
  own_object := by simp [Service.adopt]
  own_kept hmem := Nat.lt_irrefl _ (h.handedOut_lt _ hmem)
  handedOut_lt address hmem := by
    simpa [Service.adopt] using Nat.lt_succ_of_lt (h.handedOut_lt address hmem)
  maxCodeLength := h.maxCodeLength
  interpreter := h.interpreter

/-- A caller gets an object that is not the sandbox's own. -/
lemma handOut (h : s.Serves box) (o : LimitsObject) : (s.handOut o).Serves box where
  own_object := by
    have hobject := h.own_object
    simpa [Service.handOut, List.getElem?_append_left h.own_lt] using hobject
  own_kept := by
    simpa [Service.handOut] using ⟨h.own_kept, Nat.ne_of_lt h.own_lt⟩
  handedOut_lt address hmem := by
    simp only [Service.handOut, List.mem_append, List.mem_singleton, List.length_append,
      List.length_singleton] at hmem ⊢
    rcases hmem with hmem | rfl
    · exact Nat.lt_succ_of_lt (h.handedOut_lt address hmem)
    · exact Nat.lt_succ_self _
  maxCodeLength := h.maxCodeLength
  interpreter := h.interpreter

/-- What callers do to the objects that they hold does not reach the sandbox's own. -/
lemma assign (h : s.Serves box) (n : Nat) (field : String) (value : Json) : (s.assign n field value).Serves box := by
  unfold Service.assign
  cases hn : s.handedOut[n]? with
  | none => exact h
  | some address =>
    have hmem : address ∈ s.handedOut := List.mem_of_getElem? hn
    have hne : address ≠ s.own := fun heq => h.own_kept (heq ▸ hmem)
    refine ⟨?_, h.own_kept, fun a ha => ?_, h.maxCodeLength, h.interpreter⟩
    · simpa [List.getElem?_modify, hne] using h.own_object
    · simpa using h.handedOut_lt a ha

end Serves

/-- A call goes by the limits in force, and leaves the service with those that it makes of them. -/
lemma perform_goesBy (h : s.Serves box) (call : Call) (host : Host) : ∃ answer next ls last,
    (s.perform call).run host = ((answer, next), last) ∧ next.Serves { box with limits := call.change box.limits } ∧
      Took ls host last ∧ call.GoesBy box.limits ls answer := by
  unfold perform
  rw [h.sandbox?_eq]
  cases call with
  | execute code language limits =>
    obtain ⟨ls, htook, hlength, hgiven⟩ := box.execute_took code language host limits
    exact ⟨_, s, ls, _, rfl, h, htook, hlength, hgiven, _, rfl⟩
  | executeTests code cases language =>
    obtain ⟨ran, ls, hran, htook, hcases⟩ := box.executeTests_took code language host cases
    exact ⟨_, s, ls, _, rfl, h, htook, ⟨ran, hran, hcases⟩, _, rfl⟩
  | setLimits fields =>
    dsimp only
    cases hset : box.setLimits fields with
    | ok changed =>
      obtain ⟨l, hl, rfl⟩ := setLimits_eq_ok_iff.mp hset
      refine ⟨_, _, [], host, rfl, ?_, .refl host, ?_⟩
      · simpa [Call.change, hl] using (h.adopt l).handOut (.ofLimits l)
      · simp [Call.GoesBy, hl]
    | error fault =>
      have hnone := exists_setLimits_error_iff.mp ⟨fault, hset⟩
      refine ⟨_, s, [], host, rfl, ?_, .refl host, ?_⟩
      · simpa [Call.change, hnone] using h
      · simp [Call.GoesBy, hnone]
  | getLimits => exact ⟨_, _, [], host, rfl, h.handOut _, .refl host, rfl, rfl⟩
  | assign n field value => exact ⟨_, _, [], host, rfl, h.assign n field value, .refl host, rfl, rfl⟩
  | validate code language => exact ⟨_, s, [], host, rfl, h, .refl host, rfl, _, rfl⟩
  | probe outcome => exact ⟨_, s, [], host, rfl, h, .refl host, rfl, rfl⟩

lemma performAll_cons {call : Call} {rest : List Call} {host mid last : Host} {answer : Answer} {next later : Service}
    {answers : List Answer} (h : (s.perform call).run host = ((answer, next), mid))
    (hrest : (next.performAll rest).run mid = ((answers, later), last)) :
    (s.performAll (call :: rest)).run host = ((answer :: answers, later), last) := by
  have hstep : (s.performAll (call :: rest)).run host =
      let first := (s.perform call).run host
      let others := (first.1.2.performAll rest).run first.2
      ((first.1.1 :: others.1.1, others.1.2), others.2) := rfl
  rw [hstep, h]
  dsimp only
  rw [hrest]

/-- The calls one after the other; the induction carries the sandbox that is served, whose limits are those in force. -/
lemma performAll_goesBy (h : s.Serves box) (calls : List Call) (host : Host) :
    ∃ (answers : List Answer) (later : Service) (children : List (List Launch)) (last : Host),
      (s.performAll calls).run host = ((answers, later), last) ∧
      later.Serves { box with limits := limitsAfter box.limits calls } ∧
      Took children.flatten host last ∧ AllGoBy box.limits calls children answers := by
  induction calls generalizing s box host with
  | nil => exact ⟨[], s, [], host, rfl, h, .refl host, .nil box.limits⟩
  | cons call rest ih =>
    obtain ⟨answer, next, ls, mid, hrun, hserves, htook, hgoes⟩ := perform_goesBy h call host
    obtain ⟨answers, later, children, last, hruns, hlater, htooks, hall⟩ := ih hserves mid
    exact ⟨answer :: answers, later, ls :: children, last, performAll_cons hrun hruns, hlater, htook.trans htooks,
      .cons hgoes hall⟩

end Service
end CodeAudit.Sandbox
