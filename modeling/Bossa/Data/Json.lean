import Bossa.Core.Abort
import Bossa.Data.Bytes
import Bossa.Data.Double

/-!
# JSON values

A JSON text is modelled by the value it denotes. `dump` is the serializer: it
throws on a string that is not valid UTF-8 and writes a number that is not
finite as `null`.
-/

/-- A JSON value. -/
inductive Json where
  | null
  | bool (b : Bool)
  | num (v : Double)
  | str (s : Bytes)
  | arr (items : List Json)
  | obj (members : List (Bytes × Json))

namespace Json

instance : Inhabited Json := ⟨null⟩

instance : ∀ j : Json, Decidable (j = null)
  | null => isTrue rfl
  | bool _ | num _ | str _ | arr _ | obj _ => isFalse nofun

mutual

def validText : Json → Bool
  | null | bool _ | num _ => true
  | str s => Bytes.validUtf8 s
  | arr items => validItems items
  | obj members => validMembers members

def validItems : List Json → Bool
  | [] => true
  | j :: items => validText j && validItems items

def validMembers : List (Bytes × Json) → Bool
  | [] => true
  | (name, j) :: members =>
      Bytes.validUtf8 name && validText j && validMembers members

end

mutual

/-- The value as it is read back, without the numbers that JSON cannot write. -/
def written : Json → Json
  | null => null
  | bool b => bool b
  | num v => if v.isFinite then num v else null
  | str s => str s
  | arr items => arr (writtenItems items)
  | obj members => obj (writtenMembers members)

def writtenItems : List Json → List Json
  | [] => []
  | j :: items => written j :: writtenItems items

def writtenMembers : List (Bytes × Json) → List (Bytes × Json)
  | [] => []
  | (name, j) :: members => (name, written j) :: writtenMembers members

end

/-- `nlohmann::json::dump` with default arguments. -/
def dump (j : Json) : Except Bossa.Abort Json :=
  if j.validText then .ok j.written else .error .exception

theorem validItems_eq_all : ∀ items : List Json, validItems items = items.all validText
  | [] => rfl
  | j :: items => by rw [validItems, List.all_cons, validItems_eq_all items]

theorem writtenItems_eq_map : ∀ items : List Json, writtenItems items = items.map written
  | [] => rfl
  | j :: items => by rw [writtenItems, List.map_cons, writtenItems_eq_map items]

theorem dump_eq_ok_iff {j j' : Json} :
    j.dump = .ok j' ↔ j.validText = true ∧ j.written = j' := by
  unfold dump
  split
  · next h => simp [h]
  · next h => simp [h]

/-- The member of an object with the given name. The last one counts when a
name occurs twice. -/
def member? (name : Bytes) (members : List (Bytes × Json)) : Option Json :=
  (members.reverse.find? fun m => m.1 = name).map Prod.snd

end Json
