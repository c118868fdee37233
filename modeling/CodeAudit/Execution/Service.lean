import CodeAudit.Execution.Sandbox
import CodeAudit.Json.Basic

/-!
A sandbox in service: calls on it follow one another, and the limits that it shows are objects, which their holders
may change as they like.
-/

namespace CodeAudit

/-- An object with limits. Whoever holds it may have put anything into its fields. -/
structure LimitsObject where
  memoryMb : Json
  timeMs : Json
  cores : Json
deriving Inhabited

namespace LimitsObject

def ofLimits (l : Limits) : LimitsObject :=
  ⟨.number l.memoryMb, .number l.timeMs, .number l.cores⟩

/-- The limits that the object stands for, if there are limits in its fields. -/
def limits? : LimitsObject → Option Limits
  | ⟨.number memoryMb, .number timeMs, .number cores⟩ => (Limits.make memoryMb timeMs cores).toOption
  | _ => none

@[simp] theorem limits?_ofLimits (l : Limits) : (ofLimits l).limits? = some l := by
  obtain ⟨memoryMb, timeMs, cores, hm, ht, hc⟩ := l
  simp only [ofLimits, limits?, Limits.make, hm, ht, hc, dite_true]
  rfl

/-- An assignment to a field by its name; what another name is given is never looked at. -/
def assign (o : LimitsObject) (field : String) (value : Json) : LimitsObject :=
  match field with
  | "max_memory_mb" => { o with memoryMb := value }
  | "max_execution_time_ms" => { o with timeMs := value }
  | "max_cpu_cores" => { o with cores := value }
  | _ => o

end LimitsObject

namespace Sandbox

/-- A call on a sandbox, or what a caller does to an object that it was given. -/
inductive Call where
  | execute (code : Option (List Char)) (language : Option String) (limits : Option Limits)
  | executeTests (code : Option (List Char)) (cases : List TestCase) (language : Option String)
  | setLimits (fields : List (String × Number))
  | getLimits
  /-- An assignment to a field of one of the objects handed out so far, which are counted from zero. -/
  | assign (object : Nat) (field : String) (value : Json)
  | validate (code : Option (List Char)) (language : Option String)
  | probe (outcome : Probe)

/-- What a call gives back. -/
inductive Answer where
  | result (r : Except RunFault ExecutionResult)
  | results (rs : Except RunFault (List ExecutionResult))
  | limits (o : Except Limits.Fault LimitsObject)
  | assigned
  | problem (p : Option String)
  | available (yes : Bool)
  /-- There are no limits left in the sandbox's own object. -/
  | broken
deriving Inhabited

/-- A sandbox that goes by the limits in one of the objects, and the callers' part in these. -/
structure Service where
  /-- All objects with limits that were ever made; the place of an object is its address. -/
  objects : List LimitsObject
  /-- The address of the sandbox's own object. -/
  own : Nat
  /-- The addresses that callers were given, in order. -/
  handedOut : List Nat
  maxCodeLength : Number
  interpreter : Option String

namespace Service

/-- The start of a service, with one object that nobody else holds. -/
def start (box : Sandbox) : Service where
  objects := [.ofLimits box.limits]
  own := 0
  handedOut := []
  maxCodeLength := box.maxCodeLength
  interpreter := box.interpreter

/-- The sandbox with the limits that its own object has now. -/
def sandbox? (s : Service) : Option Sandbox :=
  (s.objects[s.own]?.bind LimitsObject.limits?).map fun limits =>
    { limits := limits, maxCodeLength := s.maxCodeLength, interpreter := s.interpreter }

/-- A new object takes the place of the sandbox's own. -/
def adopt (s : Service) (o : LimitsObject) : Service :=
  { s with objects := s.objects ++ [o], own := s.objects.length }

/-- A caller is given a new object. -/
def handOut (s : Service) (o : LimitsObject) : Service :=
  { s with objects := s.objects ++ [o], handedOut := s.handedOut ++ [s.objects.length] }

/-- The object that was the n-th to be handed out, as it is now. -/
def handedOut? (s : Service) (n : Nat) : Option LimitsObject :=
  s.handedOut[n]?.bind (s.objects[·]?)

/-- A caller changes a field of the object that was the n-th to be handed out. -/
def assign (s : Service) (n : Nat) (field : String) (value : Json) : Service :=
  match s.handedOut[n]? with
  | some address => { s with objects := s.objects.modify address (·.assign field value) }
  | none => s

/-- One call. Overrides make a new object of the old one, and callers are only ever shown copies. -/
def perform (s : Service) (call : Call) : StateM Host (Answer × Service) :=
  match s.sandbox? with
  | none => return (.broken, s)
  | some box =>
    match call with
    | .execute code language limits => do
      return (.result (← (box.execute code language limits).run), s)
    | .executeTests code cases language => do
      return (.results (← (box.executeTests code cases language).run), s)
    | .setLimits fields =>
      match box.setLimits fields with
      | .ok changed =>
        let o := LimitsObject.ofLimits changed.limits
        return (.limits (.ok o), (s.adopt o).handOut o)
      | .error fault => return (.limits (.error fault), s)
    | .getLimits =>
      let o := LimitsObject.ofLimits box.limits
      return (.limits (.ok o), s.handOut o)
    | .assign n field value => return (.assigned, s.assign n field value)
    | .validate code language => return (.problem (box.problem? code language), s)
    | .probe outcome => return (.available (isAvailable outcome), s)

/-- Calls one after the other, with their answers. -/
def performAll (s : Service) : List Call → StateM Host (List Answer × Service)
  | [] => return ([], s)
  | call :: rest => do
    let (answer, s) ← s.perform call
    let (answers, s) ← s.performAll rest
    return (answer :: answers, s)

end Service

end Sandbox

end CodeAudit
