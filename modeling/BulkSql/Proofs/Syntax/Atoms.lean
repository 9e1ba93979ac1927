import BulkSql.Proofs.Syntax.Soundness

/-! # Atoms

The narrower grammar of a VALUES list: a text is read as an atom exactly where it spells one.
-/

namespace BulkSql

namespace Expr

open Reader

variable {inner : Reader Expr} {bound : Nat}

/-- An atom without casts. -/
def atomPrimary (inner : Reader Expr) : Reader Expr :=
  firstOf [readPlaceholder, readLiteral, readCall inner, readNested inner]

theorem atomLevel_of_primary {text mid : Text} {tree : Expr} (done : atomPrimary inner text = .done tree mid) :
    atomLevel inner text = extend castMark .cast tree mid :=
  marksAfter_of_done done

theorem readAtom_eq (text : Text) : readAtom text = atomLevel (guarded readAtom text) text := recursive_apply ..

theorem fails_readAtom_closing (more : Text) : Fails readAtom (')' :: more) := by
  obtain ⟨noMark, noLiteral, noName⟩ := fails_others_at_parenthesis (.inr rfl) more
  rw [Fails, readAtom_eq]
  refine Fails.bind (fails_firstOf fun reader member => ?_) _
  simp only [List.mem_cons, List.not_mem_nil, or_false] at member
  rcases member with rfl | rfl | rfl | rfl
  · exact noMark
  · exact noLiteral
  · exact noName.bind _
  · exact (fails_parenthesized (by simp)).bind _

/-- An atom is read and its casts may go on. -/
def AtomReadsBack (inner : Reader Expr) (bound : Nat) (tree : Expr) : Prop :=
  ∀ text rest, text.length ≤ bound → Spells tree.lexemes text rest →
    atomLevel inner text = extend castMark .cast tree rest

theorem AtomReadsBack.readsBack {tree : Expr}
    (back : ∀ {inner bound}, AgreesBelow inner readAtom bound → AtomReadsBack inner bound tree)
    (same : AgreesBelow inner readAtom bound) : ReadsBack inner bound tree := by
  intro text rest below spells stops
  rw [same text below, readAtom_eq, back (agreesBelow_guarded readAtom text) text rest (Nat.le_refl _) spells]
  have casts : Stops 8 rest := stops.mono (Nat.zero_le 8)
  exact casts.goOn inner tree

theorem atomReadsBack {tree : Expr} (atom : tree.IsAtom) (same : AgreesBelow inner readAtom bound) :
    AtomReadsBack inner bound tree := by
  induction atom generalizing inner bound with
  | placeholder =>
    intro text rest below spells
    exact atomLevel_of_primary (firstOf_of_done (spells_singleton_iff.mp spells))
  | literal written =>
    intro text rest below spells
    have read := spells_singleton_iff.mp spells
    exact atomLevel_of_primary (firstOf_of_fails (fails_readPlaceholder_of_literal read) (firstOf_of_done read))
  | call name each ih =>
    intro text rest below spells
    obtain ⟨noMark, noLiteral⟩ := fails_constants_of_identifier spells.choose_spec.1
    refine atomLevel_of_primary (firstOf_of_fails noMark (firstOf_of_fails noLiteral (firstOf_of_done ?_)))
    refine readCall_of_spells (fun argument member => ?_) (fun more lt => ?_) below spells
    · exact AtomReadsBack.readsBack (fun same => ih argument member same) same
    · rw [Fails, same _ lt]
      exact fails_readAtom_closing more
  | nested atom ih =>
    intro text rest below spells
    obtain ⟨noMark, noLiteral, noName⟩ := fails_constants_of_nested spells
    refine atomLevel_of_primary (firstOf_of_fails noMark (firstOf_of_fails noLiteral ?_))
    refine firstOf_of_fails (noName.bind _) (firstOf_of_done ?_)
    exact readNested_of_spells (AtomReadsBack.readsBack (fun same => ih same) same) below spells
  | @cast value type atom ih =>
    intro text rest below spells
    obtain ⟨mid, spelled, marks⟩ := spells_append_iff.mp spells
    have more : goOn inner 8 value mid = goOn inner 8 (.cast value type) rest := goOn_cast marks
    exact (ih same text mid below spelled).trans more

/-- A text that spells an atom and goes on with no cast is read as the atom. -/
theorem readAtom_of_spells {tree : Expr} (atom : tree.IsAtom) {text rest : Text}
    (spells : Spells tree.lexemes text rest)
    (stops : Stops 8 rest) : readAtom text = .done tree rest := by
  rw [readAtom_eq, atomReadsBack atom (agreesBelow_guarded readAtom text) text rest (Nat.le_refl _) spells]
  exact stops.goOn readAtom tree

/-- What is read as an atom is one and is spelled. -/
theorem spells_of_readAtom {text rest : Text} {tree : Expr} (done : readAtom text = .done tree rest) :
    tree.IsAtom ∧ Spells tree.lexemes text rest := by
  refine recursive_induction (fun text tree rest => tree.IsAtom ∧ Spells tree.lexemes text rest) ?_ done
  intro inner sound text tree rest done
  refine marksAfter_induction (fun value mid => value.IsAtom ∧ Spells value.lexemes text mid) ?_ ?_ done
  · intro value mid read
    obtain ⟨reader, member, read⟩ := exists_of_firstOf read
    simp only [List.mem_cons, List.not_mem_nil, or_false] at member
    rcases member with rfl | rfl | rfl | rfl
    · obtain ⟨rfl, -⟩ := readPlaceholder_eq_done_iff.mp read
      exact ⟨.placeholder, spells_singleton_iff.mpr read⟩
    · obtain ⟨written, rfl, -⟩ := isReadAs_of_readLiteral read
      exact ⟨.literal written, spells_singleton_iff.mpr read⟩
    · obtain ⟨name, arguments, rfl, each, spells⟩ := spells_of_readCall sound read
      exact ⟨.call name each, spells⟩
    · obtain ⟨value, rfl, atom, spells⟩ := spells_of_readNested sound read
      exact ⟨.nested atom, spells⟩
  · rintro value start type mid ⟨atom, spelled⟩ marked
    obtain ⟨colons, after, read, named⟩ := bind_eq_done_iff.mp marked
    obtain ⟨rfl, -⟩ := symbol_eq_done_iff.mp read
    exact ⟨.cast type atom, spelled.append ⟨after, read, mid, named, rfl⟩⟩

end Expr

end BulkSql
