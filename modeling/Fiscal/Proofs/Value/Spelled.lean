import Fiscal.Proofs.Number.Written
import Fiscal.Proofs.Token.Sequence
import Fiscal.Proofs.Token.Words
import Fiscal.Value.Basic

set_option autoImplicit false

namespace Fiscal

namespace Token

def numberTokens (x : Float) : List Token :=
  match (Number.display x).toList with
  | '-' :: text => [mark .minus "-", numeral ((Number.read? (String.ofList text)).getD 0) (String.ofList text)]
  | text => [numeral ((Number.read? (String.ofList text)).getD 0) (String.ofList text)]

inductive SpellsNumber (x : Float) : List Char → List Token → Prop where
  | plain (text : List Char) (d : Number.Decimal) (written : Number.Written text d)
      (equal : (x == d.toFloat false) = true) :
      SpellsNumber x text [numeral (d.toFloat false) (String.ofList text)]
  | minus (text : List Char) (d : Number.Decimal) (written : Number.Written text d)
      (equal : (x == -d.toFloat false) = true) :
      SpellsNumber x ('-' :: text) [mark .minus "-", numeral (d.toFloat false) (String.ofList text)]

theorem number_spelled {x : Float} (finite : Number.isFinite x = true) :
    SpellsNumber x (Number.display x).toList (numberTokens x) := by
  have displayed := Number.display_displayed finite
  unfold numberTokens
  generalize (Number.display x).toList = text at displayed ⊢
  cases displayed with
  | plain text d written equal =>
      obtain ⟨c, others, rfl, digit⟩ := written.numeral.begins
      split
      · rename_i same
        cases same
        exact absurd digit (by decide)
      · rw [written.read]
        exact .plain _ d written equal
  | minus text d written equal =>
      change SpellsNumber x ('-' :: text)
        [mark .minus "-", numeral ((Number.read? (String.ofList text)).getD 0) (String.ofList text)]
      rw [written.read]
      exact .minus _ d written equal

end Token

namespace Value

open Token (mark numeral ReadsAs)
open Token.Scan (wordToken)

/-- A value that can be read back from its text. -/
inductive Plain : Value → Prop where
  | null : Plain null
  | bool (value : Bool) : Plain (bool value)
  | number (value : Float) (finite : Number.isFinite value = true) : Plain (number value)
  | list (items : List Value) (each : ∀ item ∈ items, Plain item) : Plain (list items)
  | object (fields : List (String × Value)) (distinct : (Named.names fields).Nodup)
      (named : ∀ field ∈ fields, LexesAsName field.1) (each : ∀ field ∈ fields, Plain field.2) : Plain (object fields)

mutual

def spelled : Value → List Token
  | null => [wordToken "null"]
  | bool value => [wordToken (if value then "true" else "false")]
  | number value => Token.numberTokens value
  | list items =>
      mark .leftBracket "[" :: ([mark .comma ","].intercalate (spelledAll items) ++ [mark .rightBracket "]"])
  | object fields =>
      mark .leftBrace "\x7b" :: ([mark .comma ","].intercalate (spelledFields fields) ++ [mark .rightBrace "\x7d"])
  | _ => []

def spelledAll : List Value → List (List Token)
  | [] => []
  | item :: rest => spelled item :: spelledAll rest

def spelledFields : List (String × Value) → List (List Token)
  | [] => []
  | (key, value) :: rest => (wordToken key :: mark .colon ":" :: spelled value) :: spelledFields rest

end

section Scanning

variable {dialect : Token.Dialect} {ledgers : Ledgers} {value : Value}

theorem number_reads {x : Float} (finite : Number.isFinite x = true) :
    ReadsAs dialect (Number.display x).toList (Token.numberTokens x) := by
  have spelled := Token.number_spelled finite
  generalize (Number.display x).toList = text, Token.numberTokens x = tokens at spelled
  cases spelled with
  | plain text d written equal => exact .number written
  | minus text d written equal => exact .minus written

theorem items_read {items : List Value}
    (each : ∀ item ∈ items, ReadsAs dialect (item.shown ledgers).toList item.spelled) :
    List.Forall₂ (ReadsAs dialect) ((shownAll ledgers items).map String.toList) (spelledAll items) := by
  induction items with
  | nil => exact .nil
  | cons item rest ih =>
      obtain ⟨first, later⟩ := List.forall_mem_cons.mp each
      exact .cons first (ih later)

theorem fields_read {fields : List (String × Value)} (named : ∀ field ∈ fields, LexesAsName field.1)
    (each : ∀ field ∈ fields, ReadsAs dialect (field.2.shown ledgers).toList field.2.spelled) :
    List.Forall₂ (ReadsAs dialect) ((shownFields ledgers fields).map String.toList) (spelledFields fields) := by
  induction fields with
  | nil => exact .nil
  | cons field rest ih =>
      obtain ⟨key, value⟩ := field
      obtain ⟨name, names⟩ := List.forall_mem_cons.mp named
      obtain ⟨first, later⟩ := List.forall_mem_cons.mp each
      refine .cons ?_ (ih names later)
      have field := ReadsAs.field name.word.1 first
      rw [String.ofList_toList] at field
      rw [String.toList_append, String.toList_append, List.append_assoc]
      exact field

theorem object_shown (fields : List (String × Value)) :
    (object fields).shown ledgers =
      if fields.isEmpty then "\x7b\x7d"
      else "\x7b " ++ String.intercalate ", " (shownFields ledgers fields) ++ " \x7d" := by
  rw [shown.eq_def]

theorem Plain.reads (plain : value.Plain) : ReadsAs dialect (value.shown ledgers).toList value.spelled := by
  induction plain with
  | null =>
      rw [shown.eq_def, spelled]
      exact .literal "null"
        ⟨⟨'n', ['u', 'l', 'l'], by decide, by decide, by decide⟩, List.all_eq_true.mp (by decide)⟩
  | bool value =>
      rw [shown.eq_def, spelled]
      cases value with
      | false =>
          exact .literal "false"
            ⟨⟨'f', ['a', 'l', 's', 'e'], by decide, by decide, by decide⟩, List.all_eq_true.mp (by decide)⟩
      | true =>
          exact .literal "true"
            ⟨⟨'t', ['r', 'u', 'e'], by decide, by decide, by decide⟩, List.all_eq_true.mp (by decide)⟩
  | number value finite => exact number_reads finite
  | list items each ih =>
      have pieces := items_read ih
      have text : ((Value.list items).shown ledgers).toList =
          '[' :: ([',', ' '].intercalate ((shownAll ledgers items).map String.toList) ++ [']']) := by
        rw [shown.eq_def, String.toList_append, String.toList_append, String.toList_intercalate]
        rfl
      rw [text, spelled]
      refine ReadsAs.bracketed ?_
      cases items with
      | nil => exact .inl ⟨rfl, rfl⟩
      | cons item rest => exact .inr (.joined pieces (List.cons_ne_nil _ _))
  | object fields distinct named each ih =>
      have pieces := fields_read named ih
      cases fields with
      | nil =>
          have text : ((Value.object []).shown ledgers).toList = ['\x7b', '\x7d'] := by
            rw [object_shown, List.isEmpty_nil, if_pos rfl]
            rfl
          rw [text, spelled]
          exact .braces
      | cons field rest =>
          have text : ((Value.object (field :: rest)).shown ledgers).toList =
              '\x7b' :: ' ' :: ([',', ' '].intercalate ((shownFields ledgers (field :: rest)).map String.toList) ++
                [' ', '\x7d']) := by
            rw [object_shown, List.isEmpty_cons, if_neg (by decide), String.toList_append, String.toList_append,
              String.toList_intercalate]
            rfl
          rw [text, spelled]
          exact .braced (.joined pieces (by obtain ⟨key, value⟩ := field; exact List.cons_ne_nil _ _))

end Scanning

end Value

end Fiscal
