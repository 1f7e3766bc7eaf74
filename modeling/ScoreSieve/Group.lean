import ScoreSieve.Distinct
import ScoreSieve.Mod

namespace ScoreSieve

/-- How a group of modifiers constrains a candidate. -/
inductive Kind
  /-- Every modifier of the group has to be present. -/
  | required
  /-- The modifiers may be present, all together or not at all. -/
  | optional
  /-- Exactly one modifier of the group has to be present. -/
  | exclusive
  /-- No modifier of the group may be present. -/
  | prohibited
  deriving DecidableEq, Repr

def Kind.name : Kind → String
  | .required => "required"
  | .optional => "optional"
  | .exclusive => "exclusive"
  | .prohibited => "prohibited"

/-- A group of modifiers in the order of writing, each of them once. -/
structure Group where
  kind : Kind
  mods : List Mod
  nodup : mods.Nodup
  deriving DecidableEq, Repr

namespace Group

/-- The group of the listed modifiers, which keeps the first of equal ones. -/
def ofMods (kind : Kind) (mods : List Mod) : Group :=
  ⟨kind, distinct mods, nodup_distinct mods⟩

def containsNoMod (group : Group) : Bool :=
  group.mods.any Mod.isNoMod

def without (group : Group) (excluded : List Mod) : Group :=
  ⟨group.kind, group.mods.filter (· ∉ excluded), List.Pairwise.filter _ group.nodup⟩

def swap (group : Group) (a b : Mod) : Group :=
  ofMods group.kind (group.mods.map fun mod => if mod = a then b else mod)

/-- Puts `mod` at the end unless it is there already. -/
def add (group : Group) (mod : Mod) : Group :=
  ofMods group.kind (group.mods ++ [mod])

@[simp] theorem kind_ofMods (kind : Kind) (mods : List Mod) : (ofMods kind mods).kind = kind := rfl

@[simp] theorem kind_without (group : Group) (excluded : List Mod) :
    (group.without excluded).kind = group.kind := rfl

@[simp] theorem kind_swap (group : Group) (a b : Mod) : (group.swap a b).kind = group.kind := rfl

@[simp] theorem kind_add (group : Group) (mod : Mod) : (group.add mod).kind = group.kind := rfl

@[simp] theorem mem_ofMods {kind : Kind} {mods : List Mod} {mod : Mod} :
    mod ∈ (ofMods kind mods).mods ↔ mod ∈ mods :=
  mem_distinct

@[simp] theorem mem_without {group : Group} {excluded : List Mod} {mod : Mod} :
    mod ∈ (group.without excluded).mods ↔ mod ∈ group.mods ∧ mod ∉ excluded := by
  simp [without]

@[simp] theorem mem_swap {group : Group} {a b mod : Mod} :
    mod ∈ (group.swap a b).mods ↔ a ∈ group.mods ∧ mod = b ∨ mod ≠ a ∧ mod ∈ group.mods := by
  simp only [swap, mem_ofMods, List.mem_map]
  constructor
  · rintro ⟨origin, member, rfl⟩
    by_cases same : origin = a
    · exact .inl ⟨same ▸ member, if_pos same⟩
    · rw [if_neg same]
      exact .inr ⟨same, member⟩
  · rintro (⟨member, rfl⟩ | ⟨other, member⟩)
    · exact ⟨a, member, if_pos rfl⟩
    · exact ⟨mod, member, if_neg other⟩

@[simp] theorem mem_add {group : Group} {mod other : Mod} :
    other ∈ (group.add mod).mods ↔ other ∈ group.mods ∨ other = mod := by
  simp [add]

end Group

end ScoreSieve
