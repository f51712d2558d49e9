import SolidityAtlas.Proofs.Text.Pieces
import SolidityAtlas.Proofs.Text.Words
import Mathlib.Data.List.Infix
import Mathlib.Data.Nat.Find

/-! Places of words in texts of several lines. No word goes over the end of a line, so the places of
a word in a text are its places in the lines, and its first place is in the first line that has it.
-/

namespace SolidityAtlas.Text

variable {separator c : Char} {front back last first text line word : List Char}
  {begun following : List (List Char)} {offset number : Nat}

-----------------------------------------------------------------------------------------
-- Places
-----------------------------------------------------------------------------------------

/-- A text has a word at an offset. -/
def WordAt (text word : List Char) (offset : Nat) : Prop :=
  ∃ front back,
    text = front ++ (word ++ back) ∧ IsWordBetween front word back ∧ front.length = offset

/-- An offset is the first one at which a text has a word. -/
structure FirstWordAt (text word : List Char) (offset : Nat) : Prop where
  here : WordAt text word offset
  first : ∀ other, WordAt text word other → offset ≤ other

/-- A text has a word if it has it at some offset. -/
theorem hasWord_iff_exists_wordAt : HasWord text word ↔ ∃ offset, WordAt text word offset :=
  ⟨fun ⟨front, back, split, whole⟩ => ⟨front.length, front, back, split, whole, rfl⟩,
    fun ⟨_, front, back, split, whole, _⟩ => ⟨front, back, split, whole⟩⟩

/-- A word of a text has a first place in it. -/
theorem HasWord.exists_first (has : HasWord text word)
    : ∃ offset, FirstWordAt text word offset := by
  classical
  have placed := hasWord_iff_exists_wordAt.mp has
  exact ⟨Nat.find placed, Nat.find_spec placed, fun _ other => Nat.find_min' placed other⟩

/-- The lines in front of an offset are no more than those in front of a later one. -/
theorem count_take_mono {later : Nat} (ordered : offset ≤ later)
    : (text.take offset).count c ≤ (text.take later).count c :=
  (List.take_sublist_take_left ordered).count_le c

-----------------------------------------------------------------------------------------
-- Pieces in their text
-----------------------------------------------------------------------------------------

/-- The first piece starts the text. -/
theorem isPrefix_of_pieces (split : pieces separator text = first :: following)
    : first <+: text := by
  induction text generalizing first following with
  | nil =>
      obtain ⟨rfl, -⟩ := List.cons.inj split
      exact List.prefix_rfl
  | cons c rest ih =>
      obtain ⟨piece, others, onward⟩ := exists_pieces_eq_cons separator rest
      by_cases same : c = separator
      · subst same
        rw [pieces_cons_self] at split
        obtain ⟨rfl, -⟩ := List.cons.inj split
        exact List.nil_prefix
      · rw [pieces_cons_of_ne same onward] at split
        obtain ⟨rfl, -⟩ := List.cons.inj split
        exact List.prefix_cons_inj c |>.mpr (ih onward)

/-- The last piece ends the text. -/
theorem isSuffix_of_pieces (split : pieces separator text = begun ++ [last]) : last <:+ text := by
  obtain ⟨-, rfl⟩ := length_and_last_of_pieces split
  have ended := List.takeWhile_prefix (fun c => decide (c ≠ separator)) (l := text.reverse)
  simpa using List.reverse_suffix.mpr ended

/-- A piece stands between separators and the ends of the text, behind as many separators as there
are pieces in front of it. Induction on the text.
-/
theorem exists_around_piece (found : (pieces separator text)[number]? = some line)
    : ∃ front back,
        text = front ++ (line ++ back)
        ∧ front.count separator = number
        ∧ (∀ c ∈ front.getLast?, c = separator)
        ∧ ∀ c ∈ back.head?, c = separator := by
  induction text generalizing line number with
  | nil =>
      obtain ⟨rfl, rfl⟩ : number = 0 ∧ line = [] := by
        cases number <;> simp_all [pieces]
      exact ⟨[], [], rfl, rfl, by simp, by simp⟩
  | cons c rest ih =>
      by_cases same : c = separator
      · subst same
        rw [pieces_cons_self] at found
        cases number with
        | zero =>
            obtain rfl := Option.some.inj found
            exact ⟨[], c :: rest, rfl, rfl, by simp, by simp⟩
        | succ number =>
            obtain ⟨front, back, rfl, count, before, behind⟩ := ih found
            refine ⟨c :: front, back, rfl, by simp [count], ?_, behind⟩
            cases front with
            | nil => simp
            | cons head front => simpa using before
      · obtain ⟨first, following, onward⟩ := exists_pieces_eq_cons separator rest
        rw [pieces_cons_of_ne same onward] at found
        cases number with
        | zero =>
            obtain rfl := Option.some.inj found
            have inRest : (pieces separator rest)[0]? = some first := by rw [onward]; rfl
            obtain ⟨front, back, rfl, count, before, behind⟩ := ih inRest
            obtain rfl : front = [] := by
              by_contra given
              refine List.count_eq_zero.mp count ?_
              rw [← before _ (List.getLast?_eq_some_getLast given)]
              exact List.getLast_mem given
            exact ⟨[], back, rfl, rfl, by simp, behind⟩
        | succ number =>
            have inRest : (pieces separator rest)[number + 1]? = some line := by rwa [onward]
            obtain ⟨front, back, rfl, count, before, behind⟩ := ih inRest
            have given : front ≠ [] := by
              rintro rfl
              cases count
            refine ⟨c :: front, back, rfl, by simp [count, same], ?_, behind⟩
            rwa [List.getLast?_cons_of_ne_nil given]

-----------------------------------------------------------------------------------------
-- Words in lines
-----------------------------------------------------------------------------------------

/-- No line feed is in a word. -/
theorem IsWordBetween.not_mem (whole : IsWordBetween front word back) (other : isWord c = false)
    : c ∉ word := by
  intro member
  rw [whole.word c member] at other
  cases other

/-- A word stays one if text at both ends is left out. -/
theorem IsWordBetween.narrow {before after : List Char}
    (whole : IsWordBetween (before ++ front) word (back ++ after))
    : IsWordBetween front word back where
  some := whole.some
  word := whole.word
  before c member := whole.before c (by simp [Option.mem_def.mp member])
  behind c member := whole.behind c (by simp [Option.mem_def.mp member])

/-- A word stays one if text comes to both ends with no word character next to the old text. -/
theorem IsWordBetween.widen {before after : List Char} (whole : IsWordBetween front word back)
    (inFront : ∀ c ∈ before.getLast?, isWord c = false)
    (behind : ∀ c ∈ after.head?, isWord c = false)
    : IsWordBetween (before ++ front) word (back ++ after) where
  some := whole.some
  word := whole.word
  before c member := by
    rw [List.getLast?_append, Option.mem_def, Option.or_eq_some_iff] at member
    rcases member with last | ⟨-, last⟩
    · exact whole.before c last
    · exact inFront c last
  behind c member := by
    rw [List.head?_append, Option.mem_def, Option.or_eq_some_iff] at member
    rcases member with first | ⟨-, first⟩
    · exact whole.behind c first
    · exact behind c first

/-- A word of a text is a word of the piece that it stands in. -/
theorem exists_piece_of_word (whole : IsWordBetween front word back)
    (other : isWord separator = false)
    : ∃ line,
        (pieces separator (front ++ (word ++ back)))[front.count separator]? = some line
        ∧ HasWord line word := by
  obtain ⟨begun, last, inFront⟩ := exists_pieces_eq_append separator front
  obtain ⟨first, following, behind⟩ := exists_pieces_eq_cons separator back
  have alone : pieces separator word = [] ++ [word] := pieces_of_not_mem (whole.not_mem other)
  have onward : pieces separator (word ++ back) = (word ++ first) :: following :=
    pieces_append alone behind
  have count : begun.length = front.count separator := (length_and_last_of_pieces inFront).1
  refine ⟨last ++ (word ++ first), ?_, last, first, rfl, ?_⟩
  · rw [pieces_append inFront onward, ← count]
    simp
  · obtain ⟨before, rfl⟩ := isSuffix_of_pieces inFront
    obtain ⟨after, rfl⟩ := isPrefix_of_pieces behind
    exact whole.narrow

/-- A word of a piece is a word of the text, behind as many separators as there are pieces in front
of it.
-/
theorem exists_wordAt_of_piece (found : (pieces separator text)[number]? = some line)
    (other : isWord separator = false) (has : HasWord line word)
    : ∃ offset, WordAt text word offset ∧ (text.take offset).count separator = number := by
  obtain ⟨before, after, rfl, count, inFront, behind⟩ := exists_around_piece found
  obtain ⟨front, back, rfl, whole⟩ := has
  have absent : separator ∉ front := by
    intro member
    exact not_mem_of_mem_pieces (List.mem_of_getElem? found) (List.mem_append_left _ member)
  have split : before ++ (front ++ (word ++ back) ++ after)
      = (before ++ front) ++ (word ++ (back ++ after)) := by
    simp
  refine ⟨(before ++ front).length, ⟨before ++ front, back ++ after, split, ?_, rfl⟩, ?_⟩
  · exact whole.widen (fun c last => inFront c last ▸ other) fun c first => behind c first ▸ other
  · rw [split, List.take_left, List.count_append, count, List.count_eq_zero.mpr absent]
    rfl

/-- The first piece that has a word is the one in which the word has its first place. -/
theorem FirstWordAt.findIdx? {test : List Char → Bool} (first : FirstWordAt text word offset)
    (other : isWord separator = false) (decides : ∀ line, test line = true ↔ HasWord line word)
    : (pieces separator text).findIdx? test = some ((text.take offset).count separator) := by
  obtain ⟨front, back, split, whole, length⟩ := first.here
  have count : (text.take offset).count separator = front.count separator := by
    rw [split, ← length, List.take_left]
  obtain ⟨line, found, has⟩ := exists_piece_of_word whole other
  rw [← split, ← count] at found
  obtain ⟨inside, rfl⟩ := List.getElem?_eq_some_iff.mp found
  refine List.findIdx?_eq_some_iff_getElem.mpr ⟨inside, (decides _).mpr has, ?_⟩
  intro number earlier passes
  obtain ⟨later, placed, known⟩ :=
    exists_wordAt_of_piece (List.getElem?_eq_getElem _) other ((decides _).mp passes)
  have more : (text.take offset).count separator ≤ (text.take later).count separator :=
    count_take_mono (first.first later placed)
  omega

end SolidityAtlas.Text
