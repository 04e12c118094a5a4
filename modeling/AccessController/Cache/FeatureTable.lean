import AccessController.Cache.Geometry

/-!
# Feature tables

The shapes of the four caches are given by twelve numbers, three for each cache:
bytes of a line, number of lines and width in bits. A data cache streams one
element at a time; the configuration caches share a granularity of their own.
A table exists only for sound shapes.
-/

namespace AccessController

/-- The sound shapes of the four caches. -/
structure FeatureTable where
  geometry : PerCache Geometry
  kind_eq : ∀ kind, (geometry.get kind).kind = some kind
  sound : ∀ kind, (geometry.get kind).Sound
  /-- A data cache streams one element at a time. -/
  granularity_eq : ∀ kind, kind.isData →
    (geometry.get kind).granularityBits = (geometry.get kind).widthBits

namespace FeatureTable

/-- Three numbers for each cache. -/
def entryCount : Nat := 12

/-- Why a list of numbers is no feature table. -/
inductive Fault where
  | wrongLength (length : Nat)
  | unsound (kind : CacheKind) (fault : Geometry.Fault)
  deriving Repr, DecidableEq

def Fault.message : Fault → String
  | .wrongLength length =>
    s!"cache feature table has {length} entries, expected {entryCount}"
  | .unsound kind fault => s!"{kind.name}: {fault.message}"

/-- The shape of a cache with a line size, a line count and a width. -/
def shape (kind : CacheKind) (confGranularity lineBytes lineCount widthBits : Nat) :
    Geometry where
  kind := some kind
  lineBytes := lineBytes
  lineCount := lineCount
  widthBits := widthBits
  granularityBits := if kind.isData then widthBits else confGranularity

/-- The shapes that a list of features stands for. -/
def shapes (features : List Nat) (confGranularity : Nat) : PerCache Geometry :=
  .ofFn fun kind =>
    let entry offset := features.getD (3 * kind.selector.toNat + offset) 0
    shape kind confGranularity (entry 0) (entry 1) (entry 2)

/-- The first fault of a family of shapes, cache by cache. -/
def firstFault? (geometry : PerCache Geometry) : Option Fault :=
  CacheKind.all.findSome? fun kind => (geometry.get kind).fault?.map (.unsound kind)

theorem sound_of_firstFault? {geometry : PerCache Geometry}
    (accepted : firstFault? geometry = none) (kind : CacheKind) :
    (geometry.get kind).Sound := by
  have faultless := List.findSome?_eq_none_iff.1 accepted kind (CacheKind.mem_all kind)
  exact Geometry.fault?_eq_none_iff.1 (Option.map_eq_none_iff.1 faultless)

/-- The table of a list of features and the granularity of the configuration
caches. -/
def ofList? (features : List Nat) (confGranularity : Nat) : Except Fault FeatureTable :=
  if features.length = entryCount then
    match accepted : firstFault? (shapes features confGranularity) with
    | some fault => .error fault
    | none => .ok {
        geometry := shapes features confGranularity
        kind_eq := fun kind => by simp [shapes, shape]
        sound := sound_of_firstFault? accepted
        granularity_eq := fun kind data => by simp [shapes, shape, data] }
  else
    .error (.wrongLength features.length)

/-- The shape of one cache. -/
def get (table : FeatureTable) (kind : CacheKind) : Geometry := table.geometry.get kind

@[simp] theorem kind_get (table : FeatureTable) (kind : CacheKind) :
    (table.get kind).kind = some kind := table.kind_eq kind

theorem sound_get (table : FeatureTable) (kind : CacheKind) : (table.get kind).Sound :=
  table.sound kind

theorem granularityBits_get (table : FeatureTable) {kind : CacheKind} (data : kind.isData) :
    (table.get kind).granularityBits = (table.get kind).widthBits := table.granularity_eq kind data

/-- The shapes in the order of the selectors. -/
def toList (table : FeatureTable) : List Geometry := table.geometry.toList

end FeatureTable

end AccessController
