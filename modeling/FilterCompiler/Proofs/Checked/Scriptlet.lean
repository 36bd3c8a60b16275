import FilterCompiler.Proofs.Rule.CallArguments
import FilterCompiler.Proofs.Text.Decoding
import FilterCompiler.Proofs.Text.Slice

/-!
# Scriptlet calls read byte by byte

The items of a call are read from the bytes behind its lead, the last byte left out.  That
byte may be a part of a character, and then what is read ends inside this character.  No
item ends there, so the fault is the same as if the whole character were read
(`readAlike_codes_append`).  Every item that is read is a whole text, and its bytes are
decoded as the text (`parseCall_eq`).
-/

namespace FilterCompiler
namespace Checked

open Scriptlet
open Text (codes sub? byteSlice?)

/-! ## Bytes and texts read alike -/

section Reader

variable {quote c d : Char} {bytes s tail more : List Char}

theorem readOutside_of_not_isAscii
    (hc : ¬ Text.isAscii c)
    (s : List Char) :
    readOutside (c :: s) = .error .outsideQuotes := by
  have hne (d : Char) : Text.isAscii d → c ≠ d := Text.ne_of_isAscii (Bool.eq_false_iff.mpr hc)
  rw [readOutside, if_neg (not_or.mpr ⟨hne _ rfl, hne _ rfl⟩),
    if_neg (not_or.mpr ⟨hne _ rfl, hne _ rfl⟩)]

/-- Whatever is beyond ASCII is a part of the item inside quotes. -/
theorem readInside_append_of_not_isAscii
    (hquote : Text.isAscii quote)
    {piece : List Char}
    (hpiece : ∀ b ∈ piece, ¬ Text.isAscii b)
    (item s : List Char) :
    readInside quote item (piece ++ s) = readInside quote (piece.reverse ++ item) s := by
  induction piece generalizing item with
  | nil => rfl
  | cons b piece ih =>
      rw [List.forall_mem_cons] at hpiece
      have hne (d : Char) : Text.isAscii d → b ≠ d :=
        Text.ne_of_isAscii (Bool.eq_false_iff.mpr hpiece.1)
      rw [List.cons_append, readInside_plain (hne _ hquote) (hne _ rfl), ih hpiece.2,
        List.reverse_cons, List.append_assoc, List.singleton_append]

theorem readInside_eq_error_of_not_isAscii
    (hquote : Text.isAscii quote)
    {piece : List Char}
    (hpiece : ∀ b ∈ piece, ¬ Text.isAscii b)
    (item : List Char) :
    readInside quote item piece = .error .unclosedQuote := by
  have hread := readInside_append_of_not_isAscii hquote hpiece item []
  rwa [List.append_nil, readInside] at hread

/-- The bytes of an item that is kept in reverse, in reverse too. -/
def reversedCodes (item : List Char) : List Char := (codes item.reverse).reverse

theorem reversedCodes_cons
    (c : Char)
    (item : List Char) :
    reversedCodes (c :: item) = (codes [c]).reverse ++ reversedCodes item := by
  rw [reversedCodes, reversedCodes, List.reverse_cons, Text.codes_append, List.reverse_append]

/-- From any state of the reader the bytes give the bytes of the items of the text. -/
structure ReadAlike (bytes s : List Char) : Prop where
  outside : readOutside bytes = (readOutside s).map (List.map codes)
  inside :
    ∀ quote item, Text.isAscii quote → quote ≠ '\\' →
      readInside quote (reversedCodes item) bytes = (readInside quote item s).map (List.map codes)

theorem ReadAlike.outside_cons
    (h : ReadAlike bytes s)
    (c : Char) :
    readOutside (codes [c] ++ bytes) = (readOutside (c :: s)).map (List.map codes) := by
  by_cases hc : Text.isAscii c
  · rw [Text.codes_cons_of_isAscii hc, Text.codes_nil, List.singleton_append, readOutside,
      readOutside]
    split
    · exact h.outside
    split
    · next hquote =>
        have hbackslash : c ≠ '\\' := by
          rintro rfl
          simp at hquote
        exact h.inside c [] hc hbackslash
    · rfl
  · obtain ⟨b, rest, hcodes⟩ := List.exists_cons_of_ne_nil (Text.codes_singleton_ne_nil c)
    have hb : ¬ Text.isAscii b :=
      Text.not_isAscii_of_mem_codes hc b (hcodes ▸ List.mem_cons_self)
    rw [hcodes, List.cons_append, readOutside_of_not_isAscii hb, readOutside_of_not_isAscii hc]
    rfl

theorem ReadAlike.inside_cons
    (h : ReadAlike bytes s)
    (hc : c ≠ '\\')
    (hascii : Text.isAscii quote)
    (hquote : quote ≠ '\\')
    (item : List Char) :
    readInside quote (reversedCodes item) (codes [c] ++ bytes) =
      (readInside quote item (c :: s)).map (List.map codes) := by
  have hpush := h.inside quote (c :: item) hascii hquote
  rw [reversedCodes_cons] at hpush
  by_cases hcascii : Text.isAscii c
  · rw [Text.codes_cons_of_isAscii hcascii, Text.codes_nil] at hpush ⊢
    rw [List.singleton_append]
    by_cases hcquote : c = quote
    · rw [hcquote, readInside_quote, readInside_quote, h.outside, reversedCodes,
        List.reverse_reverse]
      cases readOutside s <;> rfl
    · rw [readInside_plain hcquote hc, readInside_plain hcquote hc]
      exact hpush
  · have hcquote : c ≠ quote := Text.ne_of_isAscii (Bool.eq_false_iff.mpr hcascii) hascii
    rw [readInside_append_of_not_isAscii hascii (Text.not_isAscii_of_mem_codes hcascii),
      readInside_plain hcquote hc]
    exact hpush

/-- A backslash is read together with the character behind it. -/
theorem ReadAlike.inside_backslash
    (h : ReadAlike bytes s)
    (d : Char)
    (hascii : Text.isAscii quote)
    (hquote : quote ≠ '\\')
    (item : List Char) :
    readInside quote (reversedCodes item) ('\\' :: (codes [d] ++ bytes)) =
      (readInside quote item ('\\' :: d :: s)).map (List.map codes) := by
  have hkept := h.inside quote (d :: '\\' :: item) hascii hquote
  have hdropped := h.inside quote (d :: item) hascii hquote
  rw [reversedCodes_cons] at hdropped
  rw [reversedCodes_cons, reversedCodes_cons, Text.codes_cons_of_isAscii (c := '\\') rfl] at hkept
  by_cases hd : Text.isAscii d
  · rw [Text.codes_cons_of_isAscii hd, Text.codes_nil] at hkept hdropped ⊢
    rw [List.singleton_append]
    by_cases hescaped : d = quote ∨ d = '\\'
    · rw [readInside_escaped hquote hescaped, readInside_escaped hquote hescaped]
      exact hdropped
    · rw [readInside_backslash hquote hescaped, readInside_backslash hquote hescaped]
      exact hkept
  · have hplain : ∀ e, ¬ Text.isAscii e → ¬ (e = quote ∨ e = '\\') := by
      rintro e he (rfl | rfl)
      · exact he hascii
      · exact he rfl
    have hforeign := Text.not_isAscii_of_mem_codes hd
    obtain ⟨b, rest, hcodes⟩ := List.exists_cons_of_ne_nil (Text.codes_singleton_ne_nil d)
    rw [hcodes, List.forall_mem_cons] at hforeign
    rw [readInside_backslash hquote (hplain d hd), ← hkept, hcodes, List.cons_append,
      readInside_backslash hquote (hplain b hforeign.1),
      readInside_append_of_not_isAscii hascii hforeign.2, List.reverse_cons, List.append_assoc]
    rfl

/-- The bytes end where the text ends, or both end with something beyond ASCII. -/
structure EndsAlike (tail more : List Char) : Prop where
  nil_iff : tail = [] ↔ more = []
  tail_foreign : ∀ b ∈ tail, ¬ Text.isAscii b
  more_foreign : ∀ c ∈ more, ¬ Text.isAscii c

theorem EndsAlike.readAlike
    (h : EndsAlike tail more) :
    ReadAlike tail more where
  outside := by
    cases htail : tail with
    | nil =>
        rw [h.nil_iff.mp htail]
        rfl
    | cons b tail =>
        obtain ⟨c, rest, hmore⟩ :=
          List.exists_cons_of_ne_nil (mt h.nil_iff.mpr (htail ▸ List.cons_ne_nil b tail))
        have hb : ¬ Text.isAscii b := h.tail_foreign b (htail ▸ List.mem_cons_self)
        have hc : ¬ Text.isAscii c := h.more_foreign c (hmore ▸ List.mem_cons_self)
        rw [hmore, readOutside_of_not_isAscii hb, readOutside_of_not_isAscii hc]
        rfl
  inside quote item hquote _ := by
    rw [readInside_eq_error_of_not_isAscii hquote h.tail_foreign,
      readInside_eq_error_of_not_isAscii hquote h.more_foreign]
    rfl

/-- A backslash in front of the end is a fault of its own only if nothing follows it. -/
theorem EndsAlike.inside_backslash
    (h : EndsAlike tail more)
    (hascii : Text.isAscii quote)
    (hquote : quote ≠ '\\')
    (item item' : List Char) :
    readInside quote item' ('\\' :: tail) =
      (readInside quote item ('\\' :: more)).map (List.map codes) := by
  have hend : ∀ piece, (∀ b ∈ piece, ¬ Text.isAscii b) → ∀ item,
      readInside quote item ('\\' :: piece) =
        .error (if piece = [] then .brokenEscape else .unclosedQuote) := by
    intro piece hpiece item
    cases piece with
    | nil =>
        rw [readInside, if_neg (Ne.symm hquote), if_pos rfl]
        rfl
    | cons b piece =>
        rw [List.forall_mem_cons] at hpiece
        have hplain : ¬ (b = quote ∨ b = '\\') := by
          rintro (rfl | rfl)
          · exact hpiece.1 hascii
          · exact hpiece.1 rfl
        rw [readInside_backslash hquote hplain,
          readInside_eq_error_of_not_isAscii hascii hpiece.2, if_neg (List.cons_ne_nil b piece)]
  rw [hend tail h.tail_foreign, hend more h.more_foreign, if_congr h.nil_iff rfl rfl]
  rfl

/-- **The bytes of a text are read as the text.** -/
theorem readAlike_codes_append
    (h : EndsAlike tail more)
    (s : List Char) :
    ReadAlike (codes s ++ tail) (s ++ more) := by
  -- a backslash is read together with the character behind it
  induction s using List.twoStepInduction with
  | nil => exact h.readAlike
  | singleton c =>
      refine ⟨h.readAlike.outside_cons c, fun quote item hascii hquote => ?_⟩
      by_cases hc : c = '\\'
      · subst hc
        exact h.inside_backslash hascii hquote item (reversedCodes item)
      · exact h.readAlike.inside_cons hc hascii hquote item
  | cons_cons c d s ih ih' =>
      rw [Text.codes_cons, List.append_assoc]
      refine ⟨(ih' d).outside_cons c, fun quote item hascii hquote => ?_⟩
      by_cases hc : c = '\\'
      · subst hc
        rw [Text.codes_cons d s, List.append_assoc]
        exact ih.inside_backslash d hascii hquote item
      · exact (ih' d).inside_cons hc hascii hquote item

end Reader

/-! ## Calls -/

/-- The text that some bytes of a call stand for. -/
def decodeItem (item : List Char) : String := Text.decodeLossy (item.map Char.toUInt8)

/-- Reads a call from the bytes of its content. -/
def parseCall (content : String) : Option (Except ScriptletFault Scriptlet) := do
  let bytes := codes content.toList
  if ¬ isCall content ∨ bytes.length ≤ lead.length then return .error .notCall
  let stop ← sub? bytes.length 1
  let body ← byteSlice? lead.length stop bytes
  match readOutside body with
  | .error fault => return .error fault
  | .ok items =>
      let args := items.map decodeItem
      if args.head?.all (· = "") then return .error .noName
      let name ← args[0]?
      return .ok { name, args := args.tail }

theorem decodeItem_codes
    (s : List Char) :
    decodeItem (codes s) = String.ofList s := by
  have hbyte : ∀ b : UInt8, (Char.ofUInt8 b).toUInt8 = b := UInt8.toUInt8_toUInt32
  rw [decodeItem, codes, List.map_map, ← Text.decodeLossy_utf8]
  congr 1
  exact List.map_id'' hbyte _

/-- The bytes of a call without the last one. -/
theorem exists_dropLast_codes
    {call : List Char}
    (hne : call ≠ []) :
    ∃ s tail more, EndsAlike tail more ∧ (codes call).dropLast = codes s ++ tail ∧
      body call = s ++ more := by
  rcases List.eq_nil_or_concat call with rfl | ⟨s, c, rfl⟩
  · exact absurd rfl hne
  rw [List.concat_eq_append, body, List.getLast?_concat, Text.codes_append,
    List.dropLast_append_of_ne_nil (Text.codes_singleton_ne_nil c)]
  dsimp only
  by_cases hc : Text.isAscii c
  · refine ⟨s, [], [], ⟨Iff.rfl, by simp, by simp⟩, ?_, ?_⟩
    · rw [Text.codes_cons_of_isAscii hc]
      rfl
    · rw [if_pos hc, List.dropLast_concat, List.append_nil]
  · have hlong : 1 < (codes [c]).length := by
      have hpos := c.utf8Size_pos
      have hsize := mt Text.isAscii_of_utf8Size hc
      rw [Text.length_codes, Text.byteLength, Text.byteLength]
      omega
    refine ⟨s, (codes [c]).dropLast, [c], ⟨?_, ?_, ?_⟩, rfl, if_neg hc⟩
    · refine iff_of_false (List.ne_nil_of_length_pos ?_) (List.cons_ne_nil c [])
      rw [List.length_dropLast]
      omega
    · exact fun b hb => Text.not_isAscii_of_mem_codes hc b (List.dropLast_subset _ hb)
    · simpa using hc

/-- **The items of a call are in the call.** -/
theorem parseCall_eq
    (content : String) :
    parseCall content = some (parse content) := by
  rw [parseCall, parse, isCall, Text.beginsWith]
  cases hlead : Text.dropLead? lead content.toList with
  | none => rfl
  | some call =>
      have hbytes : codes content.toList = lead ++ codes call := by
        rw [Text.dropLead?_eq_some_iff.mp hlead, Text.codes_append]
        rfl
      rw [hbytes]
      cases hcall : call with
      | nil => rfl
      | cons c rest =>
          rw [← hcall]
          have hne : call ≠ [] := hcall ▸ List.cons_ne_nil c rest
          have hlong : (codes call).length ≠ 0 := by
            rw [Text.length_codes]
            exact mt Text.eq_nil_of_byteLength_eq_zero hne
          obtain ⟨s, tail, more, hends, hdrop, hbody⟩ := exists_dropLast_codes hne
          have hslice : byteSlice? lead.length ((lead ++ codes call).length - 1)
              (lead ++ codes call) = some (codes s ++ tail) := by
            rw [byteSlice?, if_pos (by rw [List.length_append]; omega), ← List.dropLast_eq_take,
              List.dropLast_append_of_ne_nil (mt List.length_eq_zero_iff.mpr hlong),
              List.drop_left, hdrop]
          have hcalls : ¬ (¬ (some call).isSome ∨ (lead ++ codes call).length ≤ lead.length) := by
            rw [List.length_append]
            rintro (hcall | hle)
            · exact hcall rfl
            · omega
          rw [if_neg hcalls, Text.sub?_of_le (by rw [List.length_append]; omega)]
          simp only [Option.bind_eq_bind, Option.bind_some, hslice,
            (readAlike_codes_append hends s).outside, hbody]
          cases readOutside (s ++ more) with
          | error fault => rfl
          | ok items =>
              have hargs : (items.map codes).map decodeItem = items.map String.ofList := by
                rw [List.map_map]
                exact List.map_congr_left fun item _ => decodeItem_codes item
              dsimp only [Except.map]
              rw [hargs]
              rcases items with _ | ⟨_ | ⟨d, name⟩, args⟩
              · rfl
              · rfl
              · simp

end Checked
end FilterCompiler
