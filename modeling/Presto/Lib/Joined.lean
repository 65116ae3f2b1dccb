import Mathlib.Data.List.Basic
import Mathlib.Data.List.DropRight

/-!
# Lists joined from parts, and their ends

`JoinedBy p text parts`: the parts stand one after the other in the text, with one element that
satisfies `p` between two of them. `List.splitOnP` takes such a text apart. `Ends p text`: the text
begins and ends with an element that satisfies `p`, and so what does not is stripped up to there.
-/

variable {α : Type*} {p : α → Bool}

inductive JoinedBy (p : α → Bool) : List α → List (List α) → Prop
  | single (part : List α) : JoinedBy p part [part]
  | cons (part : List α) {a : α} {text : List α} {parts : List (List α)} :
      p a = true → JoinedBy p text parts → JoinedBy p (part ++ a :: text) (part :: parts)

namespace JoinedBy

theorem ne_nil {text : List α} {parts : List (List α)} (h : JoinedBy p text parts) :
    parts ≠ [] := by
  cases h <;> simp

theorem eq_of_single {text part : List α} (h : JoinedBy p text [part]) : text = part := by
  cases h with
  | single => rfl
  | cons part ha h => exact absurd rfl h.ne_nil

theorem eq_of_two {text left right : List α} (h : JoinedBy p text [left, right]) :
    ∃ a, p a = true ∧ text = left ++ a :: right := by
  cases h with
  | cons part ha h => exact ⟨_, ha, by rw [h.eq_of_single]⟩

/-- A text is joined from the parts that it is split into. -/
theorem splitOnP (p : α → Bool) (text : List α) : JoinedBy p text (text.splitOnP p) := by
  induction text with
  | nil => exact single []
  | cons a text ih =>
    rw [List.splitOnP_cons_eq_if_modifyHead]
    split
    · rename_i ha
      exact cons [] ha ih
    · generalize text.splitOnP p = parts at ih ⊢
      cases ih with
      | single part => exact single (a :: text)
      | cons part hb h => exact cons (a :: part) hb h

/-- Parts without a separator are what the text splits into. -/
theorem splitOnP_eq {text : List α} {parts : List (List α)} (h : JoinedBy p text parts)
    (hparts : ∀ part ∈ parts, ∀ a ∈ part, p a = false) : text.splitOnP p = parts := by
  induction h with
  | single part => exact List.splitOnP_eq_singleton (hparts part (by simp))
  | cons part ha h ih =>
    rw [List.splitOnP_append_cons_of_forall_mem (hparts part (by simp)) _ ha,
      ih fun other hother => hparts other (List.mem_cons_of_mem _ hother)]

/-- The parts that a text splits into have no separator in them. -/
theorem splitOnP_parts (p : α → Bool) (text : List α) :
    ∀ part ∈ text.splitOnP p, ∀ a ∈ part, p a = false := by
  induction text with
  | nil => simp
  | cons b text ih =>
    rw [List.splitOnP_cons_eq_if_modifyHead]
    split
    · simpa using ih
    · rename_i hb
      have hne := List.splitOnP_ne_nil p text
      generalize text.splitOnP p = parts at ih hne ⊢
      cases parts with
      | nil => exact absurd rfl hne
      | cons first parts =>
        intro part hpart a ha
        rw [List.modifyHead_cons, List.mem_cons] at hpart
        rcases hpart with rfl | hpart
        · rcases List.mem_cons.1 ha with rfl | ha
          · simpa using hb
          · exact ih first (by simp) a ha
        · exact ih part (List.mem_cons_of_mem _ hpart) a ha

/-- What is in the text is in a part, or separates two. -/
theorem mem {text : List α} {parts : List (List α)} (h : JoinedBy p text parts) {a : α} :
    a ∈ text → (∃ part ∈ parts, a ∈ part) ∨ p a = true := by
  induction h with
  | single part => exact fun ha => .inl ⟨part, by simp, ha⟩
  | cons part hb h ih =>
    intro ha
    rcases List.mem_append.1 ha with ha | ha
    · exact .inl ⟨part, by simp, ha⟩
    · rcases List.mem_cons.1 ha with rfl | ha
      · exact .inr hb
      · rcases ih ha with ⟨other, hother, ha⟩ | ha
        · exact .inl ⟨other, List.mem_cons_of_mem _ hother, ha⟩
        · exact .inr ha

/-- Two parts have a separator between them. -/
theorem exists_separator {text : List α} {parts : List (List α)} (h : JoinedBy p text parts)
    (hlen : 2 ≤ parts.length) : ∃ a ∈ text, p a = true := by
  cases h with
  | single => simp at hlen
  | cons part ha h => exact ⟨_, by simp, ha⟩

/-- Without its separators, a text is its parts one after the other. -/
theorem filter {text : List α} {parts : List (List α)} (h : JoinedBy p text parts)
    (hparts : ∀ part ∈ parts, ∀ a ∈ part, p a = false) :
    text.filter (fun a => !p a) = parts.flatten := by
  have hpart : ∀ part : List α, (∀ a ∈ part, p a = false) → part.filter (fun a => !p a) = part :=
    fun part hp => List.filter_eq_self.2 fun a ha => by simp [hp a ha]
  induction h with
  | single part => simp [hpart part (hparts part (by simp))]
  | cons part ha h ih =>
    rw [List.filter_append, List.filter_cons_of_neg (by simp [ha]), hpart part (hparts part (by simp)),
      ih fun other hother => hparts other (List.mem_cons_of_mem _ hother), List.flatten_cons]

theorem mono {q : α → Bool} {text : List α} {parts : List (List α)} (h : JoinedBy p text parts)
    (hpq : ∀ a, p a = true → q a = true) : JoinedBy q text parts := by
  induction h with
  | single part => exact single part
  | cons part ha h ih => exact cons part (hpq _ ha) ih

end JoinedBy

/-! ## Ends -/

structure Ends (p : α → Bool) (text : List α) : Prop where
  first : ∃ a rest, text = a :: rest ∧ p a = true
  last : ∃ rest a, text = rest ++ [a] ∧ p a = true

namespace Ends

theorem of_all {text : List α} (hne : text ≠ []) (h : ∀ a ∈ text, p a = true) : Ends p text := by
  refine ⟨?_, ?_⟩
  · obtain ⟨a, rest, rfl⟩ := List.exists_cons_of_ne_nil hne
    exact ⟨a, rest, rfl, h a (by simp)⟩
  · refine ⟨text.dropLast, text.getLast hne, (List.dropLast_concat_getLast hne).symm, ?_⟩
    exact h _ (List.getLast_mem hne)

theorem append {left right : List α} (hl : Ends p left) (hr : Ends p right) (middle : List α) :
    Ends p (left ++ middle ++ right) := by
  obtain ⟨a, rest, rfl, ha⟩ := hl.first
  obtain ⟨init, b, rfl, hb⟩ := hr.last
  exact ⟨⟨a, _, rfl, ha⟩, ⟨a :: rest ++ middle ++ init, b, by simp, hb⟩⟩

theorem cons {text : List α} (h : Ends p text) {a : α} (ha : p a = true) : Ends p (a :: text) := by
  obtain ⟨init, b, rfl, hb⟩ := h.last
  exact ⟨⟨a, _, rfl, ha⟩, ⟨a :: init, b, rfl, hb⟩⟩

theorem joined {q : α → Bool} {text : List α} {parts : List (List α)} (h : JoinedBy q text parts)
    (hparts : ∀ part ∈ parts, Ends p part) : Ends p text := by
  induction h with
  | single part => exact hparts part (by simp)
  | @cons part a text parts ha h ih =>
    have := (hparts part (by simp)).append (ih fun other hother => hparts other (by simp [hother])) [a]
    simpa using this

/-- Stripping from both sides stops at the ends. -/
theorem strip {text : List α} (h : Ends p text) {q : α → Bool} (hpq : ∀ a, p a = true → q a = false)
    {before after : List α} (hbefore : ∀ a ∈ before, q a = true) (hafter : ∀ a ∈ after, q a = true) :
    ((before ++ text ++ after).dropWhile q).rdropWhile q = text := by
  obtain ⟨a, rest, hfirst, ha⟩ := h.first
  obtain ⟨init, b, hlast, hb⟩ := h.last
  have hdrop : (before ++ text ++ after).dropWhile q = text ++ after := by
    rw [List.append_assoc, List.dropWhile_append_of_pos hbefore, hfirst, List.cons_append,
      List.dropWhile_cons_of_neg (by simp [hpq a ha])]
  rw [hdrop, List.rdropWhile, List.reverse_append, List.dropWhile_append_of_pos (by simpa using hafter),
    hlast, List.reverse_append, List.reverse_singleton, List.singleton_append,
    List.dropWhile_cons_of_neg (by simp [hpq b hb])]
  simp

theorem strip_self {text : List α} (h : Ends p text) {q : α → Bool}
    (hpq : ∀ a, p a = true → q a = false) : (text.dropWhile q).rdropWhile q = text := by
  have hnone : ∀ a ∈ ([] : List α), q a = true := by simp
  have hstrip := h.strip hpq hnone hnone
  rwa [List.nil_append, List.append_nil] at hstrip

/-- What is left after stripping begins and ends with an element that stays. -/
theorem of_strip {q : α → Bool} {text : List α} (h : (text.dropWhile q).rdropWhile q ≠ []) :
    Ends (fun a => !q a) ((text.dropWhile q).rdropWhile q) := by
  refine ⟨?_, ?_⟩
  · obtain ⟨a, rest, hfirst⟩ := List.exists_cons_of_ne_nil h
    refine ⟨a, rest, hfirst, ?_⟩
    obtain ⟨more, hmore⟩ := List.rdropWhile_prefix q (text.dropWhile q)
    have hhead := List.head?_dropWhile_not q text
    rw [← hmore, hfirst] at hhead
    simpa using hhead
  · refine ⟨_, _, (List.dropLast_concat_getLast h).symm, ?_⟩
    simpa using List.rdropWhile_last_not q (text.dropWhile q) h

/-- An element that stays is not stripped away. -/
theorem strip_ne_nil {q : α → Bool} {text : List α} {a : α} (ha : a ∈ text) (hq : q a = false) :
    (text.dropWhile q).rdropWhile q ≠ [] := by
  intro hnil
  have hall : ∀ b ∈ text, q b = true := by
    intro b hb
    rw [← List.takeWhile_append_dropWhile (p := q) (l := text)] at hb
    rcases List.mem_append.1 hb with hb | hb
    · exact List.mem_takeWhile_imp hb
    · exact List.rdropWhile_eq_nil_iff.1 hnil b hb
  rw [hall a ha] at hq
  cases hq

end Ends
