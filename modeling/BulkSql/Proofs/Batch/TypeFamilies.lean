import BulkSql.Value.SqlType
import Mathlib.Data.List.Induction

/-! # Families of types

Types are joined one after the other, from the first to the last. They can be joined in one order if they can be joined in
any, which is if all of them belong to one family, but for the type unknown that belongs to all. The joined type is the
widest of them. Only of varchar and text, which are as wide as each other, the one that is met first is kept.
-/

namespace BulkSql

namespace SqlType

/-- The type that types unify to from the first to the last, if they do. -/
def joined? (types : List SqlType) : Option SqlType := types.foldlM unify? unknown

/-- The families of several types. -/
def families : List (List SqlType) := [[int2, int4, int8], [float4, float8], [varchar, text]]

def SameFamily (type other : SqlType) : Prop := type = other ∨ ∃ family ∈ families, type ∈ family ∧ other ∈ family

instance : DecidableRel SameFamily := fun type other =>
  inferInstanceAs (Decidable (type = other ∨ ∃ family ∈ families, type ∈ family ∧ other ∈ family))

/-- The bytes that numbers of a type take, where a family has types of several widths. -/
def width : SqlType → Nat
  | int2 => 2
  | int4 | float4 => 4
  | int8 | float8 => 8
  | _ => 0

/-- All types but unknown belong to one family. -/
def IsOneFamily (types : List SqlType) : Prop :=
  ∀ type ∈ types, ∀ other ∈ types, type ≠ unknown → other ≠ unknown → SameFamily type other

/-- A type is the widest of some types, or unknown if all of them are. -/
def IsWidest (types : List SqlType) (type : SqlType) : Prop :=
  (type = unknown ∧ ∀ other ∈ types, other = unknown) ∨
    (type ≠ unknown ∧ type ∈ types ∧ ∀ other ∈ types, other.width ≤ type.width)

variable {types others : List SqlType} {type other unified last : SqlType}

/-! ## Two types -/

theorem SameFamily.refl (type : SqlType) : SameFamily type type := .inl rfl

theorem SameFamily.symm (same : SameFamily type other) : SameFamily other type :=
  same.imp Eq.symm fun ⟨family, member, one, two⟩ => ⟨family, member, two, one⟩

theorem SameFamily.trans (same : SameFamily type other) (next : SameFamily other last) : SameFamily type last := by
  have all : ∀ type ∈ SqlType.all, ∀ other ∈ SqlType.all, SameFamily type other →
      ∀ last ∈ SqlType.all, SameFamily other last → SameFamily type last := by decide +kernel
  exact all type (mem_all type) other (mem_all other) same last (mem_all last) next

/-- Types unify in the same cases in both orders. -/
theorem unify?_isSome_iff (type other : SqlType) :
    (type.unify? other).isSome ↔ (type ≠ unknown → other ≠ unknown → SameFamily type other) := by
  have all : ∀ type ∈ SqlType.all, ∀ other ∈ SqlType.all,
      (type.unify? other).isSome ↔ (type ≠ unknown → other ≠ unknown → SameFamily type other) := by decide +kernel
  exact all type (mem_all type) other (mem_all other)

/-- Unifying gives the wider of two types. -/
theorem unify?_eq_wider (found : type.unify? other = some unified) :
    unified = type ∧ other.width ≤ type.width ∨ unified = other ∧ type.width ≤ other.width := by
  have all : ∀ type ∈ SqlType.all, ∀ other ∈ SqlType.all, ∀ unified ∈ SqlType.all,
      type.unify? other = some unified →
        unified = type ∧ other.width ≤ type.width ∨ unified = other ∧ type.width ≤ other.width := by decide +kernel
  exact all type (mem_all type) other (mem_all other) unified (mem_all unified) found

theorem unify?_eq_unknown_iff : type.unify? other = some unknown ↔ type = unknown ∧ other = unknown := by
  have all : ∀ type ∈ SqlType.all, ∀ other ∈ SqlType.all,
      type.unify? other = some unknown ↔ type = unknown ∧ other = unknown := by decide +kernel
  exact all type (mem_all type) other (mem_all other)

/-- A type holds those of its family that are not wider. -/
theorem unify?_eq_self (same : type ≠ unknown → other ≠ unknown → SameFamily type other)
    (narrow : other.width ≤ type.width) (typed : type = unknown → other = unknown) : type.unify? other = some type := by
  have all : ∀ type ∈ SqlType.all, ∀ other ∈ SqlType.all, (type ≠ unknown → other ≠ unknown → SameFamily type other) →
      other.width ≤ type.width → (type = unknown → other = unknown) → type.unify? other = some type := by decide +kernel
  exact all type (mem_all type) other (mem_all other) same narrow typed

theorem eq_or_of_width_eq (same : SameFamily type other) (width : type.width = other.width) :
    type = other ∨ type ∈ [varchar, text] ∧ other ∈ [varchar, text] := by
  have all : ∀ type ∈ SqlType.all, ∀ other ∈ SqlType.all, SameFamily type other → type.width = other.width →
      type = other ∨ type ∈ [varchar, text] ∧ other ∈ [varchar, text] := by decide +kernel
  exact all type (mem_all type) other (mem_all other) same width

/-! ## Many types -/

theorem joined?_append (types : List SqlType) (last : SqlType) :
    joined? (types ++ [last]) = (joined? types).bind (·.unify? last) := by
  simp [joined?, List.foldlM_append]

theorem joined?_singleton (type : SqlType) : joined? [type] = some type := by simp [joined?, unify?]

theorem IsWidest.append (widest : IsWidest types type) (found : type.unify? last = some unified) :
    IsWidest (types ++ [last]) unified := by
  have narrow : ∀ other ∈ types, other.width ≤ type.width := by
    rcases widest with ⟨_, untyped⟩ | ⟨_, _, narrow⟩
    · exact fun other member => untyped other member ▸ Nat.zero_le _
    · exact narrow
  by_cases typed : unified = unknown
  · subst typed
    obtain ⟨rfl, rfl⟩ := unify?_eq_unknown_iff.mp found
    have untyped := (widest.resolve_right fun typed => typed.1 rfl).2
    exact .inl ⟨rfl, List.forall_mem_append.mpr ⟨untyped, List.forall_mem_singleton.mpr rfl⟩⟩
  · refine .inr ⟨typed, ?_⟩
    rcases unify?_eq_wider found with ⟨rfl, wider⟩ | ⟨rfl, wider⟩
    · have member := (widest.resolve_left fun untyped => typed untyped.1).2.1
      exact ⟨List.mem_append_left _ member, List.forall_mem_append.mpr ⟨narrow, List.forall_mem_singleton.mpr wider⟩⟩
    · refine ⟨List.mem_append_right _ List.mem_cons_self, List.forall_mem_append.mpr ⟨fun other member => ?_, ?_⟩⟩
      · exact Nat.le_trans (narrow other member) wider
      · exact List.forall_mem_singleton.mpr (Nat.le_refl _)

/-- The joined type is the widest. -/
theorem isWidest_of_joined? (joined : joined? types = some type) : IsWidest types type := by
  induction types using List.reverseRecOn generalizing type with
  | nil =>
    cases joined
    exact .inl ⟨rfl, List.forall_mem_nil _⟩
  | append_singleton types last ih =>
    rw [joined?_append, Option.bind_eq_some_iff] at joined
    obtain ⟨before, joinedBefore, found⟩ := joined
    exact (ih joinedBefore).append found

theorem isOneFamily_append :
    IsOneFamily (types ++ [last]) ↔
      IsOneFamily types ∧ ∀ type ∈ types, type ≠ unknown → last ≠ unknown → SameFamily type last := by
  constructor
  · intro one
    exact ⟨fun type member other also => one type (List.mem_append_left _ member) other (List.mem_append_left _ also),
      fun type member => one type (List.mem_append_left _ member) last (List.mem_append_right _ List.mem_cons_self)⟩
  · rintro ⟨one, fits⟩ type member other also typed typed'
    rcases List.mem_append.mp member with member | here <;> rcases List.mem_append.mp also with also | here'
    · exact one type member other also typed typed'
    · cases List.mem_singleton.mp here'
      exact fits type member typed typed'
    · cases List.mem_singleton.mp here
      exact (fits other also typed' typed).symm
    · cases List.mem_singleton.mp here
      cases List.mem_singleton.mp here'
      exact .refl _

/-- Where types belong to one family, the widest stands for all of them. -/
theorem IsWidest.unify?_isSome_iff (widest : IsWidest types type) (one : IsOneFamily types) :
    (type.unify? last).isSome ↔ ∀ other ∈ types, other ≠ unknown → last ≠ unknown → SameFamily other last := by
  rw [SqlType.unify?_isSome_iff]
  rcases widest with ⟨rfl, untyped⟩ | ⟨typed, member, -⟩
  · exact ⟨fun _ other member typed => absurd (untyped other member) typed, fun _ typed => absurd rfl typed⟩
  · exact ⟨fun fits other also typed' lastTyped => (one other also type member typed' typed).trans (fits typed lastTyped),
      fun fits => fits type member⟩

/-- Types can be joined if and only if they belong to one family. -/
theorem joined?_isSome_iff (types : List SqlType) : (joined? types).isSome ↔ IsOneFamily types := by
  induction types using List.reverseRecOn with
  | nil => exact ⟨fun _ _ member => absurd member List.not_mem_nil, fun _ => rfl⟩
  | append_singleton types last ih =>
    rw [joined?_append, isOneFamily_append, ← ih]
    cases joined : joined? types with
    | none => simp
    | some type =>
      rw [Option.bind_some, (isWidest_of_joined? joined).unify?_isSome_iff (ih.mp (by rw [joined]; rfl))]
      simp

/-- The joined type holds every type that went into it. -/
theorem unify?_of_joined? (joined : joined? types = some type) (member : other ∈ types) :
    type.unify? other = some type := by
  have one := (joined?_isSome_iff types).mp (by rw [joined]; rfl)
  rcases isWidest_of_joined? joined with ⟨rfl, untyped⟩ | ⟨typed, here, narrow⟩
  · rw [untyped other member]
    rfl
  · exact unify?_eq_self (one type here other member) (narrow other member) fun untyped => absurd untyped typed

/-- There is one widest type, but of varchar and text both are. -/
theorem IsWidest.eq_or (widest : IsWidest types type) (widest' : IsWidest types other) (one : IsOneFamily types) :
    type = other ∨ type ∈ [varchar, text] ∧ other ∈ [varchar, text] := by
  rcases widest with ⟨rfl, untyped⟩ | ⟨typed, member, narrow⟩ <;>
    rcases widest' with ⟨rfl, untyped'⟩ | ⟨typed', member', narrow'⟩
  · exact .inl rfl
  · exact absurd (untyped other member') typed'
  · exact absurd (untyped' type member) typed
  · exact eq_or_of_width_eq (one type member other member' typed typed')
      (Nat.le_antisymm (narrow' type member) (narrow other member'))

end SqlType

end BulkSql
