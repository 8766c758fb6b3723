import Mathlib.Data.List.Basic
import Fiscal.Text.Lines

set_option autoImplicit false

namespace Fiscal.Text

def lessReturn (line : List Char) : List Char :=
  if line.getLast? = some '\r' then line.dropLast else line

def feedLines (text : List Char) : List (List Char) := (text.splitOn '\n').map lessReturn

def feedLine? (text : String) (number : Nat) : Option String :=
  line? ((feedLines text.toList).map String.ofList) number

-- The first lines, as line feeds count them, have no other break within.
def Unbroken (text : List Char) (number : Nat) : Prop :=
  ∀ line ∈ (feedLines text).take number, ∀ c ∈ line, breaksLine c = false

theorem feed_breaks : breaksLine '\n' = true := by decide

theorem return_breaks : breaksLine '\r' = true := by decide

theorem lessReturn_cases (line : List Char) :
    line = lessReturn line ∨ line = lessReturn line ++ ['\r'] := by
  unfold lessReturn
  split
  · rename_i last
    exact .inr (List.dropLast_append_getLast? '\r' last).symm
  · exact .inl rfl

theorem feedLines_last {piece : List Char} (none : '\n' ∉ piece) : feedLines piece = [lessReturn piece] := by
  rw [feedLines, List.splitOn_eq_singleton none, List.map_singleton]

theorem feedLines_feed {piece : List Char} (none : '\n' ∉ piece) (rest : List Char) :
    feedLines (piece ++ '\n' :: rest) = lessReturn piece :: feedLines rest := by
  rw [feedLines, List.splitOn_append_cons_self_of_not_mem none, List.map_cons, feedLines]

-- A text is a line without a feed, or such a line with a feed and a text behind it.
theorem lineInduction {motive : List Char → Prop} (last : ∀ piece, '\n' ∉ piece → motive piece)
    (feed : ∀ piece rest, '\n' ∉ piece → motive rest → motive (piece ++ '\n' :: rest)) (text : List Char) :
    motive text := by
  by_cases fed : '\n' ∈ text
  · obtain ⟨piece, rest, split, none⟩ := List.eq_append_cons_of_mem fed
    have shorter : rest.length < text.length := by
      rw [split, List.length_append, List.length_cons]
      omega
    rw [split]
    exact feed piece rest none (lineInduction last feed rest)
  · exact last text fed
termination_by text.length

section Quoted

variable {quiet : List Char} (unbroken : ∀ c ∈ quiet, breaksLine c = false)

include unbroken

theorem splitLines_quiet (line rest : List Char) :
    splitLines line (quiet ++ rest) = splitLines (quiet.reverse ++ line) rest := by
  induction quiet generalizing line with
  | nil => rfl
  | cons c others ih =>
      have quietly : breaksLine c = false := unbroken c List.mem_cons_self
      have plain : c ≠ '\r' := fun same => by
        rw [same, return_breaks] at quietly
        cases quietly
      rw [List.cons_append, splitLines.eq_3 _ _ _ (fun _ same _ => plain same), quietly, if_neg Bool.false_ne_true,
        ih fun c member => unbroken c (List.mem_cons_of_mem _ member)]
      simp

theorem splitLines_return (rest : List Char) (other : rest.head? ≠ some '\n') :
    splitLines [] (quiet ++ '\r' :: rest) = quiet :: splitLines [] rest := by
  rw [splitLines_quiet unbroken, splitLines.eq_3 _ _ _ (fun _ _ same => other (by rw [same]; rfl)),
    if_pos return_breaks]
  simp

end Quoted

theorem splitLines_feed {piece : List Char} (unbroken : ∀ c ∈ lessReturn piece, breaksLine c = false)
    (rest : List Char) : splitLines [] (piece ++ '\n' :: rest) = lessReturn piece :: splitLines [] rest := by
  have shape := lessReturn_cases piece
  generalize lessReturn piece = quiet at *
  rcases shape with rfl | rfl
  · rw [splitLines_quiet unbroken, splitLines.eq_3 _ _ _ (fun _ other _ => by cases other), if_pos feed_breaks]
    simp
  · rw [List.append_assoc, splitLines_quiet unbroken, List.singleton_append, splitLines.eq_2]
    simp

theorem splitLines_last {piece : List Char} (unbroken : ∀ c ∈ lessReturn piece, breaksLine c = false) :
    splitLines [] piece = [] ∨ splitLines [] piece = [lessReturn piece] := by
  have shape := lessReturn_cases piece
  generalize lessReturn piece = quiet at *
  rcases shape with rfl | rfl
  · have whole := splitLines_quiet unbroken [] []
    rw [List.append_nil, List.append_nil, splitLines] at whole
    rw [whole]
    split
    · exact .inl rfl
    · exact .inr (by rw [List.reverse_reverse])
  · exact .inr (splitLines_return unbroken [] nofun)

theorem splitLines_feedLines {text line : List Char} {number : Nat} (unbroken : Unbroken text (number + 1))
    (found : (splitLines [] text)[number]? = some line) : (feedLines text)[number]? = some line := by
  induction text using lineInduction generalizing number with
  | last piece none =>
      rw [Unbroken, feedLines_last none] at unbroken
      rw [feedLines_last none]
      rcases splitLines_last (unbroken (lessReturn piece) (by simp)) with nothing | one
      · rw [nothing] at found
        cases found
      · rwa [one] at found
  | feed piece rest none ih =>
      rw [Unbroken, feedLines_feed none, List.take_succ_cons] at unbroken
      rw [splitLines_feed (unbroken _ List.mem_cons_self)] at found
      rw [feedLines_feed none]
      cases number with
      | zero => exact found
      | succ number => exact ih (fun line member => unbroken line (List.mem_cons_of_mem _ member)) found

theorem quoted_line {source line : String} {number : Nat} (unbroken : Unbroken source.toList number)
    (found : line? (lines source) number = some line) : feedLine? source number = some line := by
  cases number with
  | zero => cases found
  | succ number =>
      simp only [feedLine?, line?, lines, Nat.add_one_sub_one, if_neg (Nat.succ_ne_zero number),
        List.getElem?_map, Option.map_eq_some_iff] at found ⊢
      obtain ⟨characters, found, rfl⟩ := found
      exact ⟨characters, splitLines_feedLines unbroken found, rfl⟩

theorem feedLines_within (text : List Char) : ∀ line ∈ feedLines text, ∀ c ∈ line, c ∈ text ∧ c ≠ '\n' := by
  have shorter (piece : List Char) (none : '\n' ∉ piece) : ∀ c ∈ lessReturn piece, c ∈ piece ∧ c ≠ '\n' := by
    intro c member
    have within : c ∈ piece := by
      rcases lessReturn_cases piece with same | same
      · rwa [same]
      · rw [same]
        exact List.mem_append_left _ member
    exact ⟨within, fun same => none (same ▸ within)⟩
  induction text using lineInduction with
  | last piece none =>
      rw [feedLines_last none]
      exact List.forall_mem_singleton.mpr (shorter piece none)
  | feed piece rest none ih =>
      rw [feedLines_feed none]
      refine List.forall_mem_cons.mpr ⟨fun c member => ?_, fun line among c member => ?_⟩
      · exact (shorter piece none c member).imp_left (List.mem_append_left _)
      · exact (ih line among c member).imp_left fun later =>
          List.mem_append_right _ (List.mem_cons_of_mem _ later)

theorem unbroken_of_feeds {text : List Char} (feeds : ∀ c ∈ text, breaksLine c = true → c = '\n') (number : Nat) :
    Unbroken text number := by
  intro line among c member
  obtain ⟨within, other⟩ := feedLines_within text line (List.mem_of_mem_take among) c member
  cases breaks : breaksLine c with
  | true => exact absurd (feeds c within breaks) other
  | false => rfl

end Fiscal.Text
