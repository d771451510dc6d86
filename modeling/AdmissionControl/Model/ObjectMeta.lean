/-
  The metadata that every object carries.
-/

import AdmissionControl.Decoding

namespace AdmissionControl

/-- Names with texts, in the order in which they were written. -/
abbrev TextMap := List (Text × Text)

def TextMap.toJson (texts : TextMap) : Json := .obj (texts.map fun entry => (entry.1, .str entry.2))

structure ObjectMeta where
  name : Text := ""
  namespaceName : Text := ""
  labels : TextMap := []
  annotations : TextMap := []
  deriving DecidableEq

namespace ObjectMeta

/-- Decodes metadata; labels and annotations may be any trivial value, which counts as empty. -/
def decode : Decoder ObjectMeta := .model fun members =>
  ObjectMeta.mk
    <$> FieldName.decode ⟨"name", none⟩ "" .text members
    <*> FieldName.decode ⟨"namespace", none⟩ "" .text members
    <*> FieldName.decode ⟨"labels", none⟩ [] (.orTrivial [] (.object .text)) members
    <*> FieldName.decode ⟨"annotations", none⟩ [] (.orTrivial [] (.object .text)) members

def toJson (metadata : ObjectMeta) : Json := .obj [
  ("name", .str metadata.name),
  ("namespace", .str metadata.namespaceName),
  ("labels", TextMap.toJson metadata.labels),
  ("annotations", TextMap.toJson metadata.annotations)]

end ObjectMeta

end AdmissionControl
