/-
  Limits on resources.

  A raw limit maps names of resources to values as they were written.  `Limit.normalize` turns
  it into a limit: canonical names with exact quantities, in the order of the entries.  Entries
  that are null or empty text declare nothing.  `exceeding` compares two limits on the resources
  that both declare.
-/

import AdmissionControl.Quantity.Basic

namespace AdmissionControl

/-- A limit as written: names of resources and their values. -/
abbrev RawLimit := List (Text × Json)

/-- A limit: canonical names of resources, each with its quantity. -/
abbrev Limit := List (Text × Rat)

namespace Limit

/-- The field names that stand for a resource of another name. -/
def aliases : List (Text × Text) := [
  ("pods", "pods"),
  ("services", "services"),
  ("replicationControllers", "replicationcontrollers"),
  ("secrets", "secrets"),
  ("configMaps", "configmaps"),
  ("persistentVolumeClaims", "persistentvolumeclaims"),
  ("servicesNodePorts", "services.nodeports"),
  ("servicesLoadBalancers", "services.loadbalancers"),
  ("requestsCpu", "requests.cpu"),
  ("requestsMemory", "requests.memory"),
  ("requestsStorage", "requests.storage"),
  ("limitsCpu", "limits.cpu"),
  ("limitsMemory", "limits.memory")]

def canonicalName (key : Text) : Text := (aliases.lookup key).getD key

/-- Whether the value of an entry declares no limit. -/
def isUnset : Json → Bool
  | .null => true
  | .str s => s.isEmpty
  | _ => false

/-- A limit with one more entry.  A resource may be declared once, whatever its second value. -/
def declare (limit : Limit) (entry : Text × Json) : Except QuantityFailure Limit :=
  if isUnset entry.2 then .ok limit
  else
    let name := canonicalName entry.1
    if (limit.lookup name).isSome then .error (.refused (.repeatedResource name))
    else match Quantity.parse entry.2 with
      | .ok quantity => .ok (limit ++ [(name, quantity)])
      | .error failure => .error (failure.ofResource name)

/-- The limit that the entries declare, or the first failure among them. -/
def normalize (raw : RawLimit) : Except QuantityFailure Limit := raw.foldlM declare []

/-! ## Comparing -/

/-- The entries of `inner` above the bound that `outer` sets.  A resource that `outer` does not
declare has no bound. -/
def exceeding (outer inner : Limit) : Limit :=
  inner.filter fun entry => match outer.lookup entry.1 with
    | some bound => bound < entry.2
    | none => false

def exceedingRaw (outer inner : RawLimit) : Except QuantityFailure Limit := do
  let outer ← normalize outer
  let inner ← normalize inner
  return exceeding outer inner

/-- The entries by name, in order of code points. -/
def sorted (limit : Limit) : Limit := limit.mergeSort fun a b => decide (a.1 ≤ b.1)

/-- The entries by name with their quantities; none when a quantity cannot be written. -/
def describe? (limit : Limit) : Option Text := do
  let entries ← limit.sorted.mapM fun entry =>
    (Quantity.format? entry.2).map fun quantity => (entry.1 ++ "=" ++ quantity : Text)
  return Text.intercalate ", " entries

end Limit

end AdmissionControl
