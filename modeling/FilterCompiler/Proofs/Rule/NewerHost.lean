import FilterCompiler.Proofs.Rule.Network
import FilterCompiler.Rule.Basic

/-!
# Lines read for a newer host

The version of the host enters the reading of a line in three places only: a content
type that old hosts do not know, frames that old hosts block too widely, and
pseudo-classes that new hosts know themselves.  Features stay once they are there,
so each of these tests lets more through on a newer host (`parse_of_le`), and the
rule that comes out is the same one, except that its selector may no longer need the
extended engine (`isReadAs_of_ofLine`).
-/

namespace FilterCompiler

variable {v w : HostVersion}

/-! ## Features -/

namespace HostVersion

theorem le_trans
    {u v w : HostVersion}
    (huv : u ≤ v)
    (hvw : v ≤ w) :
    u ≤ w :=
  Nat.le_trans huv hvw

/-- **A feature stays.**  What hosts can do since one version, every newer host
can do. -/
theorem decide_since_of_le
    {since : HostVersion}
    (h : v ≤ w)
    (hv : decide (since ≤ v) = true) :
    decide (since ≤ w) = true :=
  decide_eq_true (le_trans (of_decide_eq_true hv) h)

end HostVersion

/-! ## Selectors -/

namespace Selector

theorem isNative_of_le
    {name : String}
    (h : v ≤ w)
    (hv : isNative v name) :
    isNative w name := by
  simp only [isNative, Bool.or_eq_true, Bool.and_eq_true] at hv ⊢
  rcases hv with ⟨hname, hhas⟩ | ⟨hname, his⟩
  · exact Or.inl ⟨hname, HostVersion.decide_since_of_le h hhas⟩
  · exact Or.inr ⟨hname, HostVersion.decide_since_of_le h his⟩

theorem isExtendedName_of_le
    {name : List Char}
    (h : v ≤ w)
    (hw : isExtendedName w name) :
    isExtendedName v name := by
  simp only [isExtendedName, Bool.and_eq_true, Bool.not_eq_true'] at hw ⊢
  obtain ⟨⟨hlong, hnative⟩, hlisted⟩ := hw
  refine ⟨⟨hlong, ?_⟩, hlisted⟩
  rw [Bool.eq_false_iff] at hnative ⊢
  exact mt (isNative_of_le h) hnative

theorem scan_of_le
    {name : Option (List Char)}
    {s : List Char}
    (h : v ≤ w)
    (hw : scan w name s) :
    scan v name s := by
  induction s generalizing name with
  | nil => exact hw
  | cons c s ih =>
      rw [scan] at hw ⊢
      split
      · rfl
      · next hattribute =>
          rw [if_neg hattribute] at hw
          split
          · next hcolon =>
              rw [if_pos hcolon] at hw
              exact ih hw
          · next hcolon =>
              rw [if_neg hcolon] at hw
              split
              · next hopen =>
                  rw [if_pos hopen, Bool.or_eq_true] at hw
                  rw [Bool.or_eq_true]
                  refine hw.imp ?_ ih
                  cases name with
                  | none => exact id
                  | some name => exact isExtendedName_of_le h
              · next hopen =>
                  rw [if_neg hopen] at hw
                  exact ih hw

/-- **A selector that needs the extended engine on a new host needs it on an old
one.** -/
theorem isExtended_of_le
    {selector : List Char}
    (h : v ≤ w)
    (hw : isExtended w selector) :
    isExtended v selector := by
  simp only [isExtended, Bool.and_eq_true] at hw ⊢
  exact ⟨hw.1, scan_of_le h hw.2⟩

end Selector

/-! ## Network rules -/

namespace Modifier

theorem ofTypeName_of_le
    {name : List Char}
    {m : Modifier}
    (h : v ≤ w)
    (hv : ofTypeName v name = .ok m) :
    ofTypeName w name = .ok m := by
  obtain ⟨t, ht, hknown, rfl⟩ := ofTypeName_eq_ok_iff.mp hv
  refine ofTypeName_eq_ok_iff.mpr ⟨t, ht, ?_, rfl⟩
  rintro ⟨hping, hw⟩
  refine hknown ⟨hping, fun hv => hw ?_⟩
  exact HostVersion.decide_since_of_le h hv

theorem ofName_of_le
    {name : List Char}
    {m : Modifier}
    (h : v ≤ w)
    (hv : ofName v name = .ok m) :
    ofName w name = .ok m := by
  unfold ofName at hv ⊢
  split at hv
  case h_6 =>
    split at hv
    case h_3 => exact ofTypeName_of_le h hv
    all_goals exact hv
  all_goals exact hv

theorem parse_of_le
    {option : List Char}
    {m : Modifier}
    (h : v ≤ w)
    (hv : parse v option = .ok m) :
    parse w option = .ok m := by
  rw [parse_eq_ok_iff rfl] at hv ⊢
  refine hv.imp_right (And.imp_right (Or.imp_right ?_))
  rintro ⟨hdomain, hvalue, hname⟩
  exact ⟨hdomain, hvalue, ofName_of_le h hname⟩

theorem parseAll_of_le
    {options : List (List Char)}
    {ms : List Modifier}
    (h : v ≤ w)
    (hv : parseAll v options = .ok ms) :
    parseAll w options = .ok ms := by
  rw [parseAll_eq_ok_iff] at hv ⊢
  exact hv.imp fun _ _ => parse_of_le h

end Modifier

namespace NetworkRule

theorem lacksFrameScope_of_le
    {rule : NetworkRule}
    (h : v ≤ w)
    (hw : rule.lacksFrameScope w) :
    rule.lacksFrameScope v := by
  simp only [lacksFrameScope, Bool.and_eq_true] at hw ⊢
  obtain ⟨⟨⟨⟨⟨hold, hblocks⟩, htypes⟩, hframes⟩, hparty⟩, hdomains⟩ := hw
  refine ⟨⟨⟨⟨⟨?_, hblocks⟩, htypes⟩, hframes⟩, hparty⟩, hdomains⟩
  simp only [HostVersion.requiresSubdocumentScope, Bool.not_eq_true', decide_eq_false_iff_not]
    at hold ⊢
  exact fun hnew => hold (HostVersion.le_trans hnew h)

theorem validate_of_le
    {rule rule' : NetworkRule}
    (h : v ≤ w)
    (hv : rule.validate v = .ok rule') :
    rule.validate w = .ok rule' := by
  rw [validate_eq_ok_iff] at hv ⊢
  obtain ⟨hrule, hwide, hregex, hoptions, hscope⟩ := hv
  refine ⟨hrule, hwide, hregex, hoptions, ?_⟩
  rw [← Bool.not_eq_true] at hscope ⊢
  exact mt (lacksFrameScope_of_le h) hscope

/-- **A network rule that an old host gets is read as the same rule for a new
one.** -/
theorem parse_of_le
    {line : String}
    {rule : NetworkRule}
    (h : v ≤ w)
    (hv : parse v line = .ok rule) :
    parse w line = .ok rule := by
  obtain ⟨hline, ms, hms, hpattern, hvalid⟩ := parse_eq_ok_iff.mp hv
  exact parse_eq_ok_iff.mpr
    ⟨hline, ms, Modifier.parseAll_of_le h hms, hpattern, validate_of_le h hvalid⟩

end NetworkRule

/-! ## Cosmetic rules -/

namespace CosmeticRule

/-- The rule with another answer to the question whether its selector needs the
extended engine. -/
def withExtended (rule : CosmeticRule) (isExtended : Bool) : CosmeticRule :=
  { rule with isExtended }

theorem validate_withExtended
    (rule : CosmeticRule)
    (isExtended : Bool) :
    (rule.withExtended isExtended).validate =
      rule.validate.map (·.withExtended isExtended) := by
  simp only [validate, withExtended, apply_ite (Except.map _)]
  rfl

/-- **The version only bears on the engine that a cosmetic rule needs.** -/
theorem ofCut_eq_map
    (v w : HostVersion)
    (line : String)
    (cut : Marker.Cut) :
    ofCut w line cut =
      (ofCut v line cut).map
        (·.withExtended (cut.marker.isExtended || Selector.isExtended w cut.content)) := by
  unfold ofCut
  split
  · rfl
  split
  · rfl
  simp only
  split
  · rfl
  split
  · rfl
  next scope _ =>
  rw [← validate_withExtended]
  rfl

theorem isExtended_of_ofCut
    {line : String}
    {cut : Marker.Cut}
    {rule : CosmeticRule}
    (hrule : ofCut v line cut = .ok rule) :
    rule.isExtended = (cut.marker.isExtended || Selector.isExtended v cut.content) := by
  rw [ofCut_eq_map v v] at hrule
  cases hcut : ofCut v line cut with
  | error e =>
      rw [hcut] at hrule
      cases hrule
  | ok rule' =>
      rw [hcut] at hrule
      cases hrule
      rfl

end CosmeticRule

/-! ## Rules -/

namespace Rule

/-- How a newer host may read a rule: network rules as they are, and cosmetic rules
too, except that the host's own engine may have come to know the selector. -/
inductive IsReadAs : Rule → Rule → Prop
  | network
      (rule : NetworkRule) :
      IsReadAs (network rule) (network rule)
  | cosmetic
      (rule : CosmeticRule)
      (isExtended : Bool)
      (h : isExtended → rule.isExtended) :
      IsReadAs (cosmetic rule) (cosmetic (rule.withExtended isExtended))

/-- **A line that an old host reads as a rule is read as that rule by a new host.** -/
theorem isReadAs_of_ofLine
    {line : String}
    {rule : Rule}
    (h : v ≤ w)
    (hv : ofLine v line = .ok (some rule)) :
    ∃ newer, ofLine w line = .ok (some newer) ∧ rule.IsReadAs newer := by
  unfold ofLine at hv ⊢
  split at hv
  · cases hv
  split at hv
  · cases hv
  next hskipped hshort =>
    rw [if_neg hskipped, if_neg hshort]
    split at hv
    · next cut _ =>
        rw [CosmeticRule.ofCut_eq_map v w]
        cases hcut : CosmeticRule.ofCut v line cut with
        | error e =>
            rw [hcut] at hv
            cases hv
        | ok older =>
            rw [hcut] at hv
            cases hv
            refine ⟨_, rfl, .cosmetic older _ fun hw => ?_⟩
            rw [CosmeticRule.isExtended_of_ofCut hcut]
            rw [Bool.or_eq_true] at hw ⊢
            exact hw.imp_right (Selector.isExtended_of_le h)
    · cases hrule : NetworkRule.parse v line with
      | error e =>
          rw [hrule] at hv
          cases hv
      | ok older =>
          rw [hrule] at hv
          cases hv
          rw [NetworkRule.parse_of_le h hrule]
          exact ⟨_, rfl, .network older⟩

end Rule
end FilterCompiler
