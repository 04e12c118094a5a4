/-!
# The four caches

The machine has four caches: values going into the array, values coming out of
it, and the configurations of its processing elements and of its routing. A
family with one member for each cache is a `PerCache`.
-/

namespace AccessController

universe u v

/-- Which cache: data into the array, data out of it, the configuration of the
processing elements or that of the routing. -/
inductive CacheKind where
  | dataIn
  | dataOut
  | confPe
  | confCc
  deriving Repr, DecidableEq

namespace CacheKind

/-- All caches in the order of their selectors. -/
def all : List CacheKind := [.dataIn, .dataOut, .confPe, .confCc]

@[simp] theorem mem_all (kind : CacheKind) : kind ∈ all := by
  cases kind <;> decide

/-- The selector of a cache in a transfer request. -/
def selector : CacheKind → UInt8
  | .dataIn => 0
  | .dataOut => 1
  | .confPe => 2
  | .confCc => 3

/-- The cache behind a selector; there is none from 4 on. -/
def ofSelector? : UInt8 → Option CacheKind
  | 0 => some .dataIn
  | 1 => some .dataOut
  | 2 => some .confPe
  | 3 => some .confCc
  | _ => none

@[simp] theorem ofSelector?_selector (kind : CacheKind) :
    ofSelector? kind.selector = some kind := by
  cases kind <;> rfl

/-- Whether the cache holds elements rather than configurations. -/
def isData : CacheKind → Bool
  | .dataIn | .dataOut => true
  | .confPe | .confCc => false

/-- Whether the cache holds configurations. -/
def isConfig (kind : CacheKind) : Bool := !kind.isData

/-- The name of a cache in messages. -/
def name : CacheKind → String
  | .dataIn => "data_in"
  | .dataOut => "data_out"
  | .confPe => "conf_pe"
  | .confCc => "conf_cc"

/-- The name of a cache in reports. -/
def reportName : CacheKind → String
  | .dataIn => "data_input"
  | .dataOut => "data_output"
  | .confPe => "conf_pe"
  | .confCc => "conf_cc"

/-- The name of a cache in state names. -/
def label : CacheKind → String
  | .dataIn => "DataInput"
  | .dataOut => "DataOutput"
  | .confPe => "ConfPe"
  | .confCc => "ConfCc"

end CacheKind

/-- One value for each cache. -/
structure PerCache (α : Type u) where
  dataIn : α
  dataOut : α
  confPe : α
  confCc : α
  deriving Repr, DecidableEq

namespace PerCache

variable {α : Type u} {β : Type v}

/-- The family given by a function. -/
def ofFn (values : CacheKind → α) : PerCache α :=
  ⟨values .dataIn, values .dataOut, values .confPe, values .confCc⟩

/-- The family with the same value everywhere. -/
def replicate (value : α) : PerCache α := ⟨value, value, value, value⟩

def get (family : PerCache α) : CacheKind → α
  | .dataIn => family.dataIn
  | .dataOut => family.dataOut
  | .confPe => family.confPe
  | .confCc => family.confCc

/-- Changes the value of one cache. -/
def modify (family : PerCache α) (kind : CacheKind) (change : α → α) : PerCache α :=
  match kind with
  | .dataIn => { family with dataIn := change family.dataIn }
  | .dataOut => { family with dataOut := change family.dataOut }
  | .confPe => { family with confPe := change family.confPe }
  | .confCc => { family with confCc := change family.confCc }

/-- Replaces the value of one cache. -/
def set (family : PerCache α) (kind : CacheKind) (value : α) : PerCache α :=
  family.modify kind fun _ => value

def map (family : PerCache α) (image : α → β) : PerCache β :=
  ofFn fun kind => image (family.get kind)

/-- The values in the order of the selectors. -/
def toList (family : PerCache α) : List α := CacheKind.all.map family.get

@[ext] theorem ext_get {left right : PerCache α}
    (same : ∀ kind, left.get kind = right.get kind) : left = right := by
  cases left
  cases right
  simp only [mk.injEq]
  exact ⟨same .dataIn, same .dataOut, same .confPe, same .confCc⟩

@[simp] theorem get_ofFn (values : CacheKind → α) (kind : CacheKind) :
    (ofFn values).get kind = values kind := by
  cases kind <;> rfl

@[simp] theorem get_replicate (value : α) (kind : CacheKind) :
    (replicate value).get kind = value := by
  cases kind <;> rfl

@[simp] theorem get_map (family : PerCache α) (image : α → β) (kind : CacheKind) :
    (family.map image).get kind = image (family.get kind) := by
  cases kind <;> rfl

theorem get_modify (family : PerCache α) (kind other : CacheKind) (change : α → α) :
    (family.modify kind change).get other =
      if kind = other then change (family.get other) else family.get other := by
  cases kind <;> cases other <;> rfl

theorem get_set (family : PerCache α) (kind other : CacheKind) (value : α) :
    (family.set kind value).get other = if kind = other then value else family.get other :=
  get_modify family kind other _

@[simp] theorem get_set_self (family : PerCache α) (kind : CacheKind) (value : α) :
    (family.set kind value).get kind = value := by
  simp [get_set]

end PerCache

end AccessController
