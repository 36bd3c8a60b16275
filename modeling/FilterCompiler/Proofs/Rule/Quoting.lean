import FilterCompiler.Proofs.Rule.CallArguments

/-!
# Texts in quotes

A text is put in quotes of either kind with a backslash in front of every backslash and
of every quote of that kind (`Quote.enclose`).  Inside the quotes the reader is at the
same place after a written character as it would be after the character itself
(`readInside_written`), so a text in quotes is read as the text, whatever it is
(`Quote.isItem_enclose`).  Hence a call whose items are put in quotes says its name and
its arguments (`parse_enclosed`).
-/

namespace FilterCompiler

theorem Text.ofList_joinWith
    (sep : String)
    (texts : List String) :
    String.ofList (joinWith sep.toList (texts.map String.toList)) = sep.intercalate texts := by
  rw [← String.toList_inj, String.toList_ofList, String.toList_intercalate,
    joinWith_eq_intercalate]

namespace Scriptlet

/-- The quotes in which an item of a call may stand. -/
inductive Quote where
  | single
  | double
deriving DecidableEq, Repr

namespace Quote

/-- How the quote is written. -/
def char : Quote → Char
  | single => '\''
  | double => '"'

/-- How a character is written inside the quotes. -/
def written (quote : Quote) (c : Char) : List Char :=
  if c = quote.char ∨ c = '\\' then ['\\', c] else [c]

/-- The text in quotes. -/
def enclose (quote : Quote) (s : String) : String :=
  String.ofList (quote.char :: s.toList.flatMap quote.written ++ [quote.char])

theorem char_ne_backslash
    (quote : Quote) :
    quote.char ≠ '\\' := by
  cases quote <;> decide

end Quote

/-! ## Reading -/

/-- A written character is read as the character. -/
theorem readInside_written
    (quote : Quote)
    (c : Char)
    (read rest : List Char) :
    readInside quote.char read (quote.written c ++ rest) =
      readInside quote.char (c :: read) rest := by
  rw [Quote.written]
  split
  · next hc => exact readInside_escaped quote.char_ne_backslash hc read rest
  · next hc =>
      rw [not_or] at hc
      exact readInside_plain hc.1 hc.2 read rest

/-- A written text is read as the text, up to the quote behind it. -/
theorem readInside_flatMap_written
    (quote : Quote)
    (s read rest : List Char) :
    readInside quote.char read (s.flatMap quote.written ++ quote.char :: rest) =
      (readOutside rest).map ((read.reverse ++ s) :: ·) := by
  induction s generalizing read with
  | nil => rw [List.flatMap_nil, List.nil_append, readInside_quote, List.append_nil]
  | cons c s ih =>
      rw [List.flatMap_cons, List.append_assoc, readInside_written, ih, List.reverse_cons,
        List.append_assoc, List.singleton_append]

theorem readOutside_char
    (quote : Quote)
    (s : List Char) :
    readOutside (quote.char :: s) = readInside quote.char [] s := by
  rw [readOutside.eq_def]
  cases quote <;> rfl

/-- **A text in quotes is read as the text.** -/
theorem Quote.isItem_enclose
    (quote : Quote)
    (s : String) :
    IsItem (quote.enclose s).toList s.toList := by
  intro rest
  rw [enclose, String.toList_ofList, List.append_assoc, List.cons_append, List.singleton_append,
    readOutside_char, readInside_flatMap_written, List.reverse_nil, List.nil_append]

/-- **A call whose items stand in quotes says its name and its arguments.**  The quotes of
each item are chosen freely. -/
theorem parse_enclosed
    (quote : Quote)
    {name : String}
    (hname : name ≠ "")
    (args : List (Quote × String)) :
    parse ("//scriptlet(" ++
        ", ".intercalate (((quote, name) :: args).map fun item => item.1.enclose item.2) ++ ")") =
      .ok { name, args := args.map Prod.snd } := by
  let texts := ((quote, name) :: args).map fun item => item.1.enclose item.2
  have hitems : List.Forall₂ IsItem (texts.map String.toList)
      (((quote, name) :: args).map fun item => item.2.toList) := by
    rw [List.forall₂_map_left_iff, List.forall₂_map_left_iff, List.forall₂_map_right_iff,
      List.forall₂_same]
    exact fun item _ => item.1.isItem_enclose item.2
  have hread : readOutside (Text.joinWith [',', ' '] (texts.map String.toList)) =
      .ok (name.toList :: args.map fun item => item.2.toList) :=
    readOutside_joinWith hitems
  have hcall : "//scriptlet(" ++ ", ".intercalate texts ++ ")" =
      String.ofList (lead ++ Text.joinWith [',', ' '] (texts.map String.toList) ++ [')']) := by
    rw [← Text.ofList_joinWith, String.ofList_append, String.ofList_append]
    rfl
  rw [hcall, parse_of_readOutside (mt String.toList_eq_nil_iff.mp hname) hread]
  simp

/-- Items with quotes of either kind, with backslashes at their ends and beyond ASCII. -/
theorem parse_enclosed_mixed :
    "log" ≠ "" ∧
      parse "//scriptlet('log', \"it's \\\"so\\\"\", 'it\\'s \"so\"', \"\", '\\\\\\\\', \"é€\\\\\")" =
        .ok { name := "log", args := ["it's \"so\"", "it's \"so\"", "", "\\\\", "é€\\"] } := by
  have hname : "log" ≠ "" := by decide
  exact ⟨hname, parse_enclosed .single hname
    [(.double, "it's \"so\""), (.single, "it's \"so\""), (.double, ""), (.single, "\\\\"),
      (.double, "é€\\")]⟩

end Scriptlet
end FilterCompiler
