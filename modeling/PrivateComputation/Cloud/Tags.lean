import PrivateComputation.SortedMap

/-!
Tags of cloud resources. Every resource of a private computation environment carries the id of the
environment under one tag.
-/

namespace PrivateComputation

abbrev Tags := SortedMap String

def environmentTag : String := "pce:pce-id"

class Tagged (Resource : Type) where
  tags : Resource → Tags

structure TagFilter where
  key : String
  value : String
  deriving DecidableEq

namespace TagFilter

def environment (environmentId : String) : TagFilter := ⟨environmentTag, environmentId⟩

def selects {Resource : Type} [Tagged Resource] (filter : TagFilter) (resource : Resource) : Bool :=
  (Tagged.tags resource).get? filter.key == some filter.value

end TagFilter

def belongsTo {Resource : Type} [Tagged Resource] (environmentId : String) (resource : Resource) :
    Bool :=
  (TagFilter.environment environmentId).selects resource

end PrivateComputation
