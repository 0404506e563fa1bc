import ScadAdvisor.Validation.Read

/-! # Setting a field of a record -/

namespace ScadAdvisor

inductive AssignFault where
  | refused (problems : List Problem)
  /-- The record works out by itself what stands under the name. -/
  | computed (record name : Text)
  /-- The name belongs to every record, and nothing can be put there. -/
  | reserved (record name : Text)
  | notRecordKind (kind : Text)
  | notEntries (kind : Text)
deriving DecidableEq, Repr

def AssignFault.message : AssignFault → Text
  | .refused problems => Text.join "\n".toList (problems.map fun p => p.fault.message)
  | .computed record name =>
    "property '".toList ++ name ++ "' of '".toList ++ record ++ "' object has no setter".toList
  | .reserved record name =>
    "attribute '".toList ++ name ++ "' of '".toList ++ record ++ "' objects is not writable".toList
  | .notRecordKind kind => "__class__ must be set to a class, not '".toList ++ kind ++ "' object".toList
  | .notEntries kind =>
    "__dict__ must be set to a dictionary, not a '".toList ++ kind ++ ['\'']

namespace Assign

/-- Names that read like those of fields, but stand for what a record works out. -/
def computedNames : List Text := ["model_fields_set".toList, "model_extra".toList]

/-- Names of that sort with a leading underscore. -/
def computedPrivateNames : List Text := ["__fields_set__".toList, "__fields__".toList]

/-- Sets a name with a leading underscore. Those are left to whoever sets them, and no field changes,
but a few have a meaning for every record. -/
def setPrivate (record name : Text) (v : Value) : Except AssignFault Unit :=
  if computedPrivateNames.contains name then .error (.computed record name)
  else if name == "__weakref__".toList then .error (.reserved record name)
  else if name == "__class__".toList then .error (.notRecordKind v.kind)
  else if name == "__dict__".toList && !v.isMapping then .error (.notEntries v.kind)
  else .ok ()

def checked {α : Type} (field : Text) (result : Checked α) : Except AssignFault α :=
  (result.under (.key field)).mapError .refused

end Assign

/-! ## Records that change -/

structure FieldSetter (α : Type) where
  name : Text
  set : α → Value → Checked α

/-- Sets one field of a record, after checking it as if it had been read. -/
def setField {α : Type} (recordName : Text) (setters : List (FieldSetter α)) (record : α) (field : Text)
    (v : Value) : Except AssignFault α :=
  match setters.find? (·.name == field) with
  | some setter => Assign.checked field (setter.set record v)
  | none =>
    if Read.isPrivate field then (Assign.setPrivate recordName field v).map fun _ => record
    else if Assign.computedNames.contains field then .error (.computed recordName field)
    else Assign.checked field (Checked.fail (.unknownField field))

/-! ## Records that do not -/

/-- Sets a name of a record that never changes: this fails for whatever reads like a field. -/
def setFrozen {α : Type} (recordName : Text) (record : α) (field : Text) (v : Value) :
    Except AssignFault α :=
  if Read.isPrivate field then (Assign.setPrivate recordName field v).map fun _ => record
  else Assign.checked field (Checked.fail .frozen)

end ScadAdvisor
