import BulkSql.Proofs.Syntax.Spelling

/-! # Lists and parentheses

Items with commas between are read exactly where they are spelled one after the other, whatever the items are.
-/

namespace BulkSql

open Reader

variable {α : Type}

/-! ## Parentheses -/

theorem Reader.fails_parenthesized {item : Reader α} {text : Text} (missing : ¬['('] <+: text) :
    Fails (parenthesized item) text :=
  (fails_symbol missing).bind _

theorem Reader.parenthesized_eq_done_iff {item : Reader α} {text rest : Text} {value : α} :
    parenthesized item text = .done value rest ↔
      ∃ start mid, symbol ['('] text = .done ['('] start ∧ item start = .done value mid ∧
        symbol [')'] mid = .done [')'] rest := by
  unfold parenthesized
  constructor
  · intro done
    obtain ⟨opening, start, opened, done⟩ := bind_eq_done_iff.mp done
    obtain ⟨found, mid, read, done⟩ := bind_eq_done_iff.mp done
    obtain ⟨closing, behind, closed, done⟩ := bind_eq_done_iff.mp done
    cases done
    obtain ⟨rfl, -⟩ := symbol_eq_done_iff.mp opened
    obtain ⟨rfl, -⟩ := symbol_eq_done_iff.mp closed
    exact ⟨start, mid, opened, read, closed⟩
  · rintro ⟨start, mid, opened, read, closed⟩
    exact (bind_of_done opened _).trans ((bind_of_done read _).trans (bind_of_done closed _))

namespace Lexeme

def parenthesized (inside : List Lexeme) : List Lexeme := .symbol ['('] :: inside ++ [.symbol [')']]

theorem spells_parenthesized_iff {inside : List Lexeme} {text rest : Text} :
    Spells (parenthesized inside) text rest ↔
      ∃ start mid, Reader.symbol ['('] text = .done ['('] start ∧ Spells inside start mid ∧
        Reader.symbol [')'] mid = .done [')'] rest := by
  simp only [parenthesized, List.cons_append, Spells, spells_append_iff, Reads]
  constructor
  · rintro ⟨start, opened, mid, spelled, behind, closed, rfl⟩
    exact ⟨start, mid, opened, spelled, closed⟩
  · rintro ⟨start, mid, opened, spelled, closed⟩
    exact ⟨start, opened, mid, spelled, rest, closed, rfl⟩

/-! ## Commas -/

/-- Parts with a comma between neighbours. -/
def commaList : List (List Lexeme) → List Lexeme
  | [] => []
  | part :: parts => part ++ parts.flatMap (.symbol [','] :: ·)

theorem commaList_append_singleton {parts : List (List Lexeme)} (some_ : parts ≠ []) (part : List Lexeme) :
    commaList (parts ++ [part]) = commaList parts ++ .symbol [','] :: part := by
  cases parts with
  | nil => exact absurd rfl some_
  | cons first parts => simp [commaList]

/-- What holds of a comma and of pieces put together holds of a list if it holds of each part. -/
theorem commaList_of_append {good : List Lexeme → Prop} (nil : good [])
    (append : ∀ {first second}, good first → good second → good (first ++ second)) (comma : good [.symbol [',']])
    {parts : List (List Lexeme)} (each : ∀ part ∈ parts, good part) : good (commaList parts) := by
  have more (parts : List (List Lexeme)) (each : ∀ part ∈ parts, good part) :
      good (parts.flatMap (.symbol [','] :: ·)) := by
    induction parts with
    | nil => exact nil
    | cons part parts ih =>
      obtain ⟨one, others⟩ := List.forall_mem_cons.mp each
      exact append (append comma one) (ih others)
  cases parts with
  | nil => exact nil
  | cons part parts =>
    obtain ⟨one, others⟩ := List.forall_mem_cons.mp each
    exact append one (more parts others)

@[simp] theorem allRead_parenthesized {inside : List Lexeme} : AllRead (parenthesized inside) ↔ AllRead inside := by
  simp [parenthesized]

@[simp] theorem allRead_commaList {parts : List (List Lexeme)} :
    AllRead (commaList parts) ↔ ∀ part ∈ parts, AllRead part := by
  have more (parts : List (List Lexeme)) :
      AllRead (parts.flatMap (.symbol [','] :: ·)) ↔ ∀ part ∈ parts, AllRead part := by
    induction parts with
    | nil => simp
    | cons part parts ih => simp [ih]
  cases parts with
  | nil => simp [commaList]
  | cons part parts => simp [commaList, more]

/-- Behind an item stands a comma or what stands behind the list. -/
theorem follows_of_spells_commas {parts : List (List Lexeme)} {text rest : Text}
    (spells : Spells (parts.flatMap (.symbol [','] :: ·)) text rest) : text = rest ∨ [','] <+: text := by
  cases parts with
  | nil => exact .inl spells
  | cons part parts =>
    obtain ⟨_, comma, -⟩ := spells
    obtain ⟨-, behind, rfl, -⟩ := symbol_eq_done_iff.mp comma
    exact .inr (List.prefix_append ..)

end Lexeme

namespace Reader

variable {item : Reader α} {spelling : α → List Lexeme} {rest : Text}

/-- Further items behind commas, up to a text that goes on with none. -/
theorem extend_commas_of_spells (noComma : ¬[','] <+: rest) {values : List α} {text : Text}
    (spells : Spells ((values.map spelling).flatMap (.symbol [','] :: ·)) text rest)
    (each : ∀ value ∈ values, ∀ start mid, start.length < text.length → Spells (spelling value) start mid →
      mid = rest ∨ [','] <+: mid → item start = .done value mid) (before : List α) :
    extend (do let _ ← symbol [',']; commit item) (fun items next => items ++ [next]) before text =
      .done (before ++ values) rest := by
  induction values generalizing text before with
  | nil =>
    obtain rfl : text = rest := spells
    rw [List.append_nil]
    exact extend_of_fails ((fails_symbol noComma).bind _) _ _
  | cons value values ih =>
    rw [List.map_cons, List.flatMap_cons, List.cons_append] at spells
    obtain ⟨start, comma, mid, spelled, more⟩ := spells.imp fun _ => And.imp_right spells_append_iff.mp
    have shorter := symbol_shorter comma (by simp)
    have le := spelled.length_le
    have read : item start = .done value mid :=
      each value (List.mem_cons_self ..) start mid shorter spelled (Lexeme.follows_of_spells_commas more)
    have marked : (do let _ ← symbol [',']; commit item) text = .done value mid :=
      (bind_of_done comma _).trans (commit_of_done read)
    rw [extend_of_done marked (by omega), ih more, List.append_assoc, List.singleton_append]
    intro other member start' mid' lt
    exact each other (List.mem_cons_of_mem _ member) start' mid' (by omega)

theorem commaSeparated_of_spells {values : List α} (some_ : values ≠ []) {text : Text}
    (spells : Spells (Lexeme.commaList (values.map spelling)) text rest) (noComma : ¬[','] <+: rest)
    (each : ∀ value ∈ values, ∀ start mid, start.length ≤ text.length → Spells (spelling value) start mid →
      mid = rest ∨ [','] <+: mid → item start = .done value mid) :
    commaSeparated item text = .done values rest := by
  cases values with
  | nil => exact absurd rfl some_
  | cons value values =>
    obtain ⟨mid, spelled, more⟩ := spells_append_iff.mp spells
    have le := spelled.length_le
    have read : item text = .done value mid :=
      each value (List.mem_cons_self ..) text mid (Nat.le_refl _) spelled (Lexeme.follows_of_spells_commas more)
    have first : (do let first ← item; pure [first]) text = .done [value] mid := bind_of_done read _
    rw [commaSeparated, separated_eq_marksAfter, marksAfter_of_done first]
    refine extend_commas_of_spells noComma more ?_ [value]
    intro other member start' mid' lt
    exact each other (List.mem_cons_of_mem _ member) start' mid' (by omega)

/-- What is read as a list of spelled items is spelled as a list, and each item is as it should be. -/
theorem spells_of_commaSeparated (good : α → Prop) {text : Text} {values : List α}
    (done : commaSeparated item text = .done values rest)
    (each : ∀ start value mid, start.length ≤ text.length → item start = .done value mid →
      good value ∧ Spells (spelling value) start mid) :
    values ≠ [] ∧ (∀ value ∈ values, good value) ∧ Spells (Lexeme.commaList (values.map spelling)) text rest := by
  rw [commaSeparated, separated_eq_marksAfter] at done
  refine marksAfter_induction (fun items mid =>
    items ≠ [] ∧ (∀ value ∈ items, good value) ∧ Spells (Lexeme.commaList (items.map spelling)) text mid) ?_ ?_ done
  · intro items mid read
    obtain ⟨first, behind, firstRead, built⟩ := bind_eq_done_iff.mp read
    cases built
    obtain ⟨fine, spelled⟩ := each text first mid (Nat.le_refl _) firstRead
    exact ⟨by simp, by simpa using fine, by simpa [Lexeme.commaList] using spelled⟩
  · rintro items start added mid ⟨some_, fine, spelled⟩ marked
    obtain ⟨written, behind, comma, committed⟩ := bind_eq_done_iff.mp marked
    obtain ⟨rfl, -⟩ := symbol_eq_done_iff.mp comma
    have before := spelled.length_le
    have shorter := symbol_shorter comma (by simp)
    obtain ⟨fineAdded, next⟩ := each behind added mid (by omega) (done_of_commit committed)
    refine ⟨by simp, ?_, ?_⟩
    · intro value member
      rcases List.mem_append.mp member with earlier | last
      · exact fine value earlier
      · exact List.mem_singleton.mp last ▸ fineAdded
    · rw [List.map_append, List.map_singleton, Lexeme.commaList_append_singleton (by simpa using some_)]
      exact spelled.append ⟨behind, comma, next⟩

/-- A list in parentheses: behind each item stands a comma or the closing parenthesis. -/
theorem listOf_of_spells {values : List α} (some_ : values ≠ []) {text : Text}
    (spells : Spells (Lexeme.parenthesized (Lexeme.commaList (values.map spelling))) text rest)
    (each : ∀ value ∈ values, ∀ start mid, Spells (spelling value) start mid → [','] <+: mid ∨ [')'] <+: mid →
      item start = .done value mid) :
    listOf item text = .done values rest := by
  obtain ⟨start, mid, opened, spelled, closed⟩ := Lexeme.spells_parenthesized_iff.mp spells
  obtain ⟨-, behind, rfl, -⟩ := symbol_eq_done_iff.mp closed
  refine parenthesized_eq_done_iff.mpr ⟨start, _, opened, ?_, closed⟩
  apply commaSeparated_of_spells some_ spelled (by simp)
  intro value member start' mid' _ spelledOne follows
  apply each value member start' mid' spelledOne
  rcases follows with rfl | comma
  · exact .inr (List.prefix_append ..)
  · exact .inl comma

theorem spells_of_listOf (good : α → Prop) {text : Text} {values : List α} (done : listOf item text = .done values rest)
    (each : ∀ start value mid, item start = .done value mid → good value ∧ Spells (spelling value) start mid) :
    values ≠ [] ∧ (∀ value ∈ values, good value) ∧
      Spells (Lexeme.parenthesized (Lexeme.commaList (values.map spelling))) text rest := by
  obtain ⟨start, mid, opened, read, closed⟩ := parenthesized_eq_done_iff.mp done
  obtain ⟨some_, fine, spelled⟩ := spells_of_commaSeparated good read fun start' value mid' _ => each start' value mid'
  exact ⟨some_, fine, Lexeme.spells_parenthesized_iff.mpr ⟨start, mid, opened, spelled, closed⟩⟩

end Reader

end BulkSql
