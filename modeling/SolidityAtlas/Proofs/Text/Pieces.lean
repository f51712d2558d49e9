import SolidityAtlas.Text.Basic
import Mathlib.Data.List.Induction

/-! Texts cut at a separator. A text that is put behind another one goes on in the last piece of it.
A name is the last piece between its dots, so what stands in front of a dot never matters to it.
-/

namespace SolidityAtlas.Text

variable {separator : Char} {front back last first content : List Char}
  {begun following : List (List Char)}

/-- A piece that a separator ends stands alone in front of the others. -/
theorem pieces_cons_self (rest : List Char)
    : pieces separator (separator :: rest) = [] :: pieces separator rest := by
  simp [pieces]

/-- Any other character belongs to the first piece of what follows. -/
theorem pieces_cons_of_ne {c : Char} {rest : List Char} (other : c ≠ separator)
    (split : pieces separator rest = first :: following)
    : pieces separator (c :: rest) = (c :: first) :: following := by
  simp [pieces, other, split]

/-- Every text has a first piece. -/
theorem exists_pieces_eq_cons (separator : Char) (text : List Char)
    : ∃ first following, pieces separator text = first :: following :=
  List.exists_cons_of_ne_nil (pieces_ne_nil separator text)

/-- Every text has a last piece. -/
theorem exists_pieces_eq_append (separator : Char) (text : List Char)
    : ∃ begun last, pieces separator text = begun ++ [last] :=
  ⟨_, _, (List.dropLast_concat_getLast (pieces_ne_nil separator text)).symm⟩

/-- Where two texts meet, the last piece of the one and the first piece of the other are one piece.
Induction on the text in front.
-/
theorem pieces_append (inFront : pieces separator front = begun ++ [last])
    (behind : pieces separator back = first :: following)
    : pieces separator (front ++ back) = begun ++ (last ++ first) :: following := by
  induction front generalizing begun last with
  | nil =>
      obtain ⟨rfl, rfl⟩ : begun = [] ∧ last = [] := by
        cases begun <;> simp_all [pieces]
      exact behind
  | cons c rest ih =>
      obtain ⟨piece, others, split⟩ := exists_pieces_eq_cons separator rest
      rw [List.cons_append]
      by_cases same : c = separator
      · subst same
        rw [pieces_cons_self, split] at inFront
        rw [pieces_cons_self]
        cases begun with
        | nil => simp at inFront
        | cons head begun =>
            obtain ⟨rfl, others⟩ := List.cons.inj inFront
            rw [ih (split.trans others), List.cons_append]
      · rw [pieces_cons_of_ne same split] at inFront
        cases begun with
        | nil =>
            obtain ⟨rfl, rfl⟩ := List.cons.inj inFront
            have only : pieces separator rest = [] ++ [piece] := split
            exact pieces_cons_of_ne same (ih only)
        | cons head begun =>
            obtain ⟨rfl, rfl⟩ := List.cons.inj inFront
            have more : pieces separator rest = (piece :: begun) ++ [last] := split
            exact pieces_cons_of_ne same (ih more)

/-- There is one more piece than there are separators, and the last piece is what stands behind the
last separator. Induction on the text from its end.
-/
theorem length_and_last_of_pieces {text : List Char}
    (split : pieces separator text = begun ++ [last])
    : begun.length = text.count separator
      ∧ last = (text.reverse.takeWhile (· ≠ separator)).reverse := by
  induction text using List.reverseRecOn generalizing begun last with
  | nil => cases begun <;> simp_all [pieces]
  | append_singleton text c ih =>
      obtain ⟨before, final, known⟩ := exists_pieces_eq_append separator text
      obtain ⟨count, tail⟩ := ih known
      by_cases same : c = separator
      · subst same
        have joined : pieces c (text ++ [c]) = (before ++ [final]) ++ [[]] := by
          simpa [pieces] using pieces_append known (pieces_cons_self [])
        obtain ⟨rfl, ended⟩ := List.append_inj' (split.symm.trans joined) rfl
        obtain rfl := List.singleton_inj.mp ended
        simp [count]
      · have joined : pieces separator (text ++ [c]) = before ++ [final ++ [c]] :=
          pieces_append known (pieces_cons_of_ne same rfl)
        obtain ⟨rfl, ended⟩ := List.append_inj' (split.symm.trans joined) rfl
        obtain rfl := List.singleton_inj.mp ended
        simp [count, tail, same]

/-- A text with a separator has at least two pieces, the first and the last one. -/
theorem exists_pieces_of_mem {text : List Char} (member : separator ∈ text)
    : ∃ first middle last, pieces separator text = (first :: middle) ++ [last] := by
  obtain ⟨begun, last, split⟩ := exists_pieces_eq_append separator text
  obtain ⟨count, -⟩ := length_and_last_of_pieces split
  have several : 0 < begun.length := count ▸ List.count_pos_iff.mpr member
  obtain ⟨first, middle, rfl⟩ := List.exists_cons_of_length_pos several
  exact ⟨first, middle, last, split⟩

/-- A line of a text that something is put behind goes on, if at all, behind its end. -/
theorem getElem?_pieces_append_left {number : Nat}
    (found : (pieces separator front)[number]? = some content)
    : ∃ rest, (pieces separator (front ++ back))[number]? = some (content ++ rest) := by
  obtain ⟨begun, last, inFront⟩ := exists_pieces_eq_append separator front
  obtain ⟨first, following, behind⟩ := exists_pieces_eq_cons separator back
  rw [inFront] at found
  rw [pieces_append inFront behind]
  rcases Nat.lt_trichotomy number begun.length with early | rfl | late
  · rw [List.getElem?_append_left early] at found ⊢
    exact ⟨[], by rw [found, List.append_nil]⟩
  · rw [List.getElem?_concat_length] at found
    exact ⟨first, by simp [Option.some.inj found]⟩
  · rw [List.getElem?_eq_none (by simp; omega)] at found
    cases found

/-- A line of a text that is put behind another one comes that many lines later, the first of them
behind what the last line of the other text holds already.
-/
theorem getElem?_pieces_append_right (inFront : pieces separator front = begun ++ [last])
    {number : Nat} (found : (pieces separator back)[number]? = some content)
    : (pieces separator (front ++ back))[begun.length + number]?
      = some ((if number = 0 then last else []) ++ content) := by
  obtain ⟨first, following, behind⟩ := exists_pieces_eq_cons separator back
  rw [behind] at found
  rw [pieces_append inFront behind]
  cases number with
  | zero => simp_all
  | succ number =>
      rw [List.getElem?_append_right (by omega)]
      simpa using found

/-- No piece has a separator in it, by induction on the text. -/
theorem not_mem_of_mem_pieces {text piece : List Char} (member : piece ∈ pieces separator text)
    : separator ∉ piece := by
  induction text generalizing piece with
  | nil =>
      obtain rfl := List.mem_singleton.mp member
      exact List.not_mem_nil
  | cons c rest ih =>
      by_cases same : c = separator
      · subst same
        rw [pieces_cons_self, List.mem_cons] at member
        rcases member with rfl | later
        · exact List.not_mem_nil
        · exact ih later
      · obtain ⟨first, following, split⟩ := exists_pieces_eq_cons separator rest
        rw [pieces_cons_of_ne same split, List.mem_cons] at member
        rcases member with rfl | later
        · have inside := ih (split ▸ List.mem_cons_self)
          simpa [Ne.symm same] using inside
        · exact ih (split ▸ List.mem_cons_of_mem _ later)

/-- A text without separators is its only piece, by induction on the text. -/
theorem pieces_of_not_mem {text : List Char} (absent : separator ∉ text)
    : pieces separator text = [text] := by
  induction text with
  | nil => rfl
  | cons c rest ih =>
      simp only [List.mem_cons, not_or] at absent
      exact pieces_cons_of_ne (Ne.symm absent.1) (ih absent.2)

-----------------------------------------------------------------------------------------
-- Names between dots
-----------------------------------------------------------------------------------------

variable {name : String}

/-- The unqualified name is the last piece between the dots. -/
theorem unqualified_eq (split : pieces '.' name.toList = begun ++ [last])
    : unqualified name = String.ofList last := by
  rw [unqualified, qualifierAndName, split]
  rcases begun with _ | ⟨first, _ | ⟨second, rest⟩⟩
  · rfl
  · rfl
  · simp [List.getLast_cons]

/-- The unqualified name has no dot. -/
theorem dot_not_mem_unqualified (name : String) : '.' ∉ (unqualified name).toList := by
  obtain ⟨begun, last, split⟩ := exists_pieces_eq_append '.' name.toList
  have member : last ∈ pieces '.' name.toList := by simp [split]
  rw [unqualified_eq split, String.toList_ofList]
  exact not_mem_of_mem_pieces member

/-- A name without dots is its own unqualified name. -/
theorem unqualified_of_not_mem (absent : '.' ∉ name.toList) : unqualified name = name := by
  have only : pieces '.' name.toList = [] ++ [name.toList] := pieces_of_not_mem absent
  rw [unqualified_eq only, String.ofList_toList]

/-- A name without dots stays the unqualified name behind any qualifier. -/
theorem unqualified_append (qualifier : String) (absent : '.' ∉ name.toList)
    : unqualified (qualifier ++ "." ++ name) = name := by
  obtain ⟨begun, last, inFront⟩ := exists_pieces_eq_append '.' qualifier.toList
  have behind : pieces '.' ('.' :: name.toList) = [] :: [name.toList] := by
    rw [pieces_cons_self, pieces_of_not_mem absent]
  have whole
      : pieces '.' (qualifier ++ "." ++ name).toList = (begun ++ [last]) ++ [name.toList] := by
    simpa using pieces_append inFront behind
  rw [unqualified_eq whole, String.ofList_toList]

/-- A name without dots has no qualifier. -/
theorem qualifierAndName_of_not_mem (absent : '.' ∉ name.toList)
    : qualifierAndName name = (none, name) := by
  rw [qualifierAndName, pieces_of_not_mem absent, List.map_singleton, String.ofList_toList]

/-- A qualifier without dots is split off from a name without dots. -/
theorem qualifierAndName_append {qualifier : String} (plain : '.' ∉ qualifier.toList)
    (absent : '.' ∉ name.toList)
    : qualifierAndName (qualifier ++ "." ++ name) = (some qualifier, name) := by
  have inFront : pieces '.' qualifier.toList = [] ++ [qualifier.toList] :=
    pieces_of_not_mem plain
  have behind : pieces '.' ('.' :: name.toList) = [] :: [name.toList] := by
    rw [pieces_cons_self, pieces_of_not_mem absent]
  have whole
      : pieces '.' (qualifier ++ "." ++ name).toList = [qualifier.toList, name.toList] := by
    simpa using pieces_append inFront behind
  rw [qualifierAndName, whole]
  simp

/-- The qualifier of a name has no dot. -/
theorem dot_not_mem_qualifier {qualifier : String}
    (split : (qualifierAndName name).1 = some qualifier)
    : '.' ∉ qualifier.toList := by
  obtain ⟨first, following, cut⟩ := exists_pieces_eq_cons '.' name.toList
  have member : first ∈ pieces '.' name.toList := by simp [cut]
  have same : qualifier = String.ofList first := by
    rw [qualifierAndName, cut] at split
    cases following with
    | nil => cases split
    | cons second rest => exact (Option.some.inj split).symm
  rw [same, String.toList_ofList]
  exact not_mem_of_mem_pieces member

end SolidityAtlas.Text
