import CodeAudit.Json.Basic

/-!
What a run may use: memory, wall-clock time and processor cores, none of them zero or less.
-/

namespace CodeAudit

/-- The budget of one run. -/
structure Limits where
  memoryMb : Number
  timeMs : Number
  cores : Number
  memory_pos : memoryMb.le 0 = false
  time_pos : timeMs.le 0 = false
  cores_pos : cores.le 0 = false
deriving DecidableEq

namespace Limits

/-- The limits that apply when none are given. -/
def standard : Limits :=
  ⟨128, 5000, 1, by decide, by decide, by decide⟩

instance : Inhabited Limits := ⟨standard⟩

/-- Why limits are refused. -/
inductive Fault where
  | notPositive (field : String) (got : Number)
  | unknownField (field : String)
deriving DecidableEq

def Fault.message : Fault → String
  | .notPositive field got => s!"{field} must be positive, got {got.text}"
  | .unknownField field => s!"ResourceLimits.__init__() got an unexpected keyword argument '{field}'"

/-- Limits of those sizes, unless one is not positive. -/
def make (memoryMb timeMs cores : Number) : Except Fault Limits :=
  if hm : memoryMb.le 0 = false then
    if ht : timeMs.le 0 = false then
      if hc : cores.le 0 = false then .ok ⟨memoryMb, timeMs, cores, hm, ht, hc⟩
      else .error (.notPositive "max_cpu_cores" cores)
    else .error (.notPositive "max_execution_time_ms" timeMs)
  else .error (.notPositive "max_memory_mb" memoryMb)

/-- New values for some of the limits. -/
structure Changes where
  memoryMb : Option Number := none
  timeMs : Option Number := none
  cores : Option Number := none
deriving DecidableEq, Inhabited

/-- One more new value, by the name of its limit. -/
def Changes.add (c : Changes) (field : String) (n : Number) : Except Fault Changes :=
  match field with
  | "max_memory_mb" => .ok { c with memoryMb := some n }
  | "max_execution_time_ms" => .ok { c with timeMs := some n }
  | "max_cpu_cores" => .ok { c with cores := some n }
  | _ => .error (.unknownField field)

/-- New values by the names of their limits. -/
def Changes.ofFields (fields : List (String × Number)) : Except Fault Changes :=
  fields.foldlM (fun c (field, n) => c.add field n) {}

/-- The limits with some of them changed. -/
def change (l : Limits) (c : Changes) : Except Fault Limits :=
  make (c.memoryMb.getD l.memoryMb) (c.timeMs.getD l.timeMs) (c.cores.getD l.cores)

/-- The limits with another time. -/
def withTime (l : Limits) (timeMs : Number) : Except Fault Limits :=
  l.change { timeMs := some timeMs }

end Limits

end CodeAudit
