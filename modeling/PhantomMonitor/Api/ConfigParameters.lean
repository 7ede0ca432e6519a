import Mathlib.Data.List.FinRange
import PhantomMonitor.Misc.CText
import PhantomMonitor.Misc.Search

/-!
# The configured parameters

`get_config_parameters` of `mf_api.c` from the answer of the resource manager on. The parameters are
searched for in the text of the answer by their names, one after another.

A float is a value of `ν`, and `atof` converts a text to one.
-/

namespace PhantomMonitor

open CText

/-- `parameters_name` (`mf_api.c:26-29`). -/
def parametersName : Fin 9 → CText
  | 0 => "MAX_CPU_POWER".toList
  | 1 => "MIN_CPU_POWER".toList
  | 2 => "MEMORY_POWER".toList
  | 3 => "L2CACHE_MISS_LATENCY".toList
  | 4 => "L2CACHE_LINE_SIZE".toList
  | 5 => "E_DISK_R_PER_KB".toList
  | 6 => "E_DISK_W_PER_KB".toList
  | 7 => "E_NET_SND_PER_KB".toList
  | 8 => "E_NET_RCV_PER_KB".toList

/-- The size of `value` (`mf_api.c:292`). -/
def valueSize : Nat := 16

/-- `strstr`: the text before the first occurrence, and the text behind it. -/
def strstr (haystack needle : CText) : Option (CText × CText) := haystack.dropInfix? needle

/-- `ptr_end - ptr_begin` (`mf_api.c:297-302`). -/
def endDistance (ptrBegin : CText) : Option Nat :=
  match strstr ptrBegin [','] with
  | some (upto, _) => some upto.length
  | none => (strstr ptrBegin ['}']).map fun found => found.1.length

/-- `value_length`, an `int` (`mf_api.c:303`). -/
def valueLength (distance : Nat) (name : CText) : Int :=
  (BitVec.ofInt 32 ((distance : Int) - 4 - name.length)).toInt

/-- `strncpy` into the zeroed `value` (`mf_api.c:305-306`). A negative length is a huge one, and
`atof` reads behind an array that keeps no NUL. -/
def copyValue (src : CText) (n : Int) : Except Fault CText :=
  if 0 ≤ n ∧ n < valueSize then .ok (src.take n.toNat)
  else if n = valueSize then .error .outOfBounds
  else .error .overflow

section

variable {ν : Type} (atof : CText → ν)

/-- The loop over the names (`mf_api.c:294-309`): the value of the function and the array. -/
def readParameters (response : CText) :
    List (Fin 9) → (Fin 9 → ν) → Except Fault (Int × (Fin 9 → ν))
  | [], parametersValue => .ok (1, parametersValue)
  | i :: is, parametersValue =>
      let name := parametersName i
      match strstr response name with
      | none => readParameters response is parametersValue
      | some (_, after) =>
          let ptrBegin := name ++ after
          match endDistance ptrBegin with
          | none => .ok (0, parametersValue)
          | some distance => do
              let value ← copyValue (ptrBegin.drop (3 + name.length)) (valueLength distance name)
              readParameters response is (Function.update parametersValue i (atof value))

/-- `get_config_parameters` (`mf_api.c:274-317`) with the answer to its query, `none` when the query
has failed. -/
def getParameters (answer : Option CText) (parametersValue : Fin 9 → ν) :
    Except Fault (Int × (Fin 9 → ν)) :=
  match answer with
  | none => .ok (0, parametersValue)
  | some response =>
      if hasSubstr response "parameters".toList then
        readParameters atof response (List.finRange 9) parametersValue
      else .ok (0, parametersValue)

end

end PhantomMonitor
