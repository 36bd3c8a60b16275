import FilterCompiler.Proofs.Domain
import FilterCompiler.Proofs.Pattern.Meaning

/-!
# Patterns that name a host

`||`, a domain and `^` is the pattern of all requests to the domain and its
subdomains.  What stands in front of the domain in a URL that matches is a
scheme, slashes and perhaps labels.  A URL can be cut in this way at its host
only: the scheme has no colon, the host no slash, and the host ends at the first
slash or colon behind it (`host_eq_of_isHostLead`).  So the labels in front of the
domain are those that the walk over the parents of the host leaves behind
(`matches_domain_iff`).
-/

namespace FilterCompiler

/-! ## Names of hosts -/

namespace Domain

/-- The character may stand in the name of a host. -/
def isNameChar (c : Char) : Bool := isAlphanumeric c || c == '-' || c == '.'

/-- A text of letters, digits, hyphens and dots that does not begin with a dot. -/
structure HostName where
  text : String
  ne_empty : text ≠ ""
  isNameChar_of_mem : ∀ c ∈ text.toList, isNameChar c
  head?_ne : text.toList.head? ≠ some '.'

theorem ne_of_isNameChar
    {c d : Char}
    (hc : isNameChar c)
    (hd : isNameChar d = false) :
    c ≠ d := by
  rintro rfl
  exact Bool.false_ne_true (hd.symm.trans hc)

/-- A character that may not stand in a name is in no text of those that may. -/
theorem notMem_of_isNameChar
    {s : List Char}
    {d : Char}
    (h : ∀ c ∈ s, isNameChar c)
    (hd : isNameChar d = false) :
    d ∉ s :=
  fun hmem => ne_of_isNameChar (h d hmem) hd rfl

theorem isAscii_of_isNameChar
    {c : Char}
    (hc : isNameChar c) :
    Text.isAscii c = true := by
  simp only [isNameChar, isAlphanumeric, isLetter, Bool.or_eq_true, Bool.and_eq_true,
    decide_eq_true_eq, beq_iff_eq] at hc
  rw [Text.isAscii, decide_eq_true_eq]
  rcases hc with ((((⟨-, hle⟩ | ⟨-, hle⟩) | ⟨-, hle⟩) | rfl) | rfl)
  · exact Nat.lt_of_le_of_lt hle (by decide)
  · exact Nat.lt_of_le_of_lt hle (by decide)
  · exact Nat.lt_of_le_of_lt hle (by decide)
  · decide
  · decide

namespace HostName

/-- A character that may not stand in a name does not. -/
theorem notMem
    (name : HostName)
    {d : Char}
    (hd : isNameChar d = false) :
    d ∉ name.text.toList :=
  notMem_of_isNameChar name.isNameChar_of_mem hd

end HostName
end Domain

/-! ## URLs -/

/-- The character ends the host of a URL. -/
def Url.EndsHost (c : Char) : Prop := c = '/' ∨ c = ':'

/-- A URL that says its host by name: a scheme, `://`, the host, and a path or a port. -/
structure Url where
  scheme : String
  host : Domain.HostName
  /-- What stands from the first slash or colon after the host on. -/
  rest : String
  scheme_ne_empty : scheme ≠ ""
  colon_notMem_scheme : ':' ∉ scheme.toList
  slash_notMem_scheme : '/' ∉ scheme.toList
  endsHost_head : ∃ mark after, rest.toList = mark :: after ∧ Url.EndsHost mark

/-- The URL as it is written. -/
def Url.text (url : Url) : String := url.scheme ++ "://" ++ url.host.text ++ url.rest

namespace Pattern

open Domain (HostName isNameChar)

/-! ## The pieces of the pattern -/

/-- The characters of a name leave a pattern in its host. -/
theorem leavesHost_of_isNameChar
    {c : Char}
    (hc : isNameChar c) :
    leavesHost c = false := by
  rw [leavesHost, decide_eq_false_iff_not]
  intro hmem
  have hsigns : ['+', '?', '$', '{', '}', '(', ')', '[', ']', '/', '\\', '*', ':'].all
      (!isNameChar ·) = true := rfl
  have hname := List.all_eq_true.mp hsigns c hmem
  rw [hc] at hname
  exact Bool.false_ne_true hname

theorem ofChar_of_isNameChar
    (inHost isLast : Bool)
    {c : Char}
    (hc : isNameChar c) :
    Piece.ofChar inHost isLast c = .literal c := by
  have hstar : c ≠ '*' := Domain.ne_of_isNameChar hc (by decide)
  have hcaret : c ≠ '^' := Domain.ne_of_isNameChar hc (by decide)
  rw [Piece.ofChar, if_neg hstar, if_neg hcaret]

/-- A name is read letter by letter. -/
theorem piecesFrom_append_name
    (isHost isEnded : Bool)
    (before : List Char)
    {name : List Char}
    (hname : ∀ c ∈ name, isNameChar c)
    (rest : List Char) :
    piecesFrom isHost isEnded before (name ++ rest) =
      name.map .literal ++ piecesFrom isHost isEnded (before ++ name) rest := by
  induction name generalizing before with
  | nil => rw [List.nil_append, List.map_nil, List.nil_append, List.append_nil]
  | cons c name ih =>
      rw [List.forall_mem_cons] at hname
      rw [List.cons_append, piecesFrom, ofChar_of_isNameChar _ _ hname.1, ih _ hname.2,
        List.append_assoc, List.singleton_append]
      rfl

/-- A name does not leave the host. -/
theorem staysInHost_append_name
    {before name : List Char}
    (hbefore : staysInHost true before = true)
    (hname : ∀ c ∈ name, isNameChar c) :
    staysInHost true (before ++ name) = true := by
  rw [staysInHost, Bool.true_and] at hbefore ⊢
  rw [List.all_append, hbefore, Bool.true_and, List.all_eq_true]
  intro c hc
  have hcaret : c ≠ '^' := Domain.ne_of_isNameChar (hname c hc) (by decide)
  simp [hcaret, leavesHost_of_isNameChar (hname c hc)]

/-- The `^` behind a name after `||` ends the host. -/
theorem piecesFrom_name
    {before name : List Char}
    (hbefore : staysInHost true before = true)
    (hname : ∀ c ∈ name, isNameChar c) :
    piecesFrom true false before (name ++ ['^']) = name.map .literal ++ [.hostEnd] := by
  rw [piecesFrom_append_name true false before hname]
  simp [piecesFrom, Piece.ofChar, staysInHost_append_name hbefore hname]

/-- Literal pieces match the characters one by one. -/
theorem piecesMatch_append_name
    (name : List Char)
    (pieces : List Piece)
    (y : List Char) :
    PiecesMatch (name.map .literal ++ pieces) y ↔
      ∃ rest, y = name ++ rest ∧ PiecesMatch pieces rest := by
  induction name generalizing y with
  | nil => simp
  | cons c name ih =>
      simp only [List.map_cons, List.cons_append, PiecesMatch, Piece.Matches, ih]
      constructor
      · rintro ⟨y₁, y₂, rfl, rfl, rest, rfl, hrest⟩
        exact ⟨rest, rfl, hrest⟩
      · rintro ⟨rest, rfl, hrest⟩
        exact ⟨[c], name ++ rest, rfl, rfl, rest, rfl, hrest⟩

theorem piecesMatch_name
    (name y : List Char) :
    PiecesMatch (name.map .literal ++ [.hostEnd]) y ↔
      ∃ mark, Url.EndsHost mark ∧ y = name ++ [mark] := by
  rw [piecesMatch_append_name]
  simp only [PiecesMatch, Piece.Matches]
  constructor
  · rintro ⟨_, rfl, y₁, y₂, rfl, rfl | rfl, rfl⟩
    · exact ⟨'/', .inl rfl, rfl⟩
    · exact ⟨':', .inr rfl, rfl⟩
  · rintro ⟨mark, rfl | rfl, rfl⟩
    · exact ⟨['/'], rfl, ['/'], [], rfl, .inl rfl, rfl⟩
    · exact ⟨[':'], rfl, [':'], [], rfl, .inr rfl, rfl⟩

/-- A pattern with something behind `||` matches as its pieces do. -/
theorem matches_host_iff
    {rest : List Char}
    (hrest : rest ≠ [])
    (url : String) :
    Matches (String.ofList ('|' :: '|' :: rest)) url ↔
      ∃ x y z, url.toList = x ++ y ++ z ∧ IsHostLead x ∧
        PiecesMatch (Parts.ofRest .host rest).pieces y ∧
        ((Parts.ofRest .host rest).isEnded = true → z = []) := by
  have hshort : String.ofList ('|' :: '|' :: rest) ∉ ["", "*", "|", "||"] := by
    have hlengths : ∀ s ∈ ["", "*", "|", "||"], s.toList.length ≤ 2 := by decide
    intro hmem
    have hlength := hlengths _ hmem
    rw [String.toList_ofList, List.length_cons, List.length_cons] at hlength
    exact hrest (List.length_eq_zero_iff.mp (by omega))
  rw [Matches, or_iff_right hshort, String.toList_ofList, Parts.ofPattern, Parts.Matches,
    Parts.lead_ofRest]
  rfl

/-- The pattern matches where the domain stands behind a lead and in front of a slash or a
colon. -/
theorem matches_name_iff
    (domain : HostName)
    (url : String) :
    Matches ("||" ++ domain.text ++ "^") url ↔
      ∃ x mark z, url.toList = x ++ (domain.text.toList ++ mark :: z) ∧ IsHostLead x ∧
        Url.EndsHost mark := by
  have hpattern : "||" ++ domain.text ++ "^" =
      String.ofList ('|' :: '|' :: (domain.text.toList ++ ['^'])) := by
    simp [← String.toList_inj]
  have hparts : Parts.ofRest .host (domain.text.toList ++ ['^']) =
      { lead := .host, body := domain.text.toList ++ ['^'], isEnded := false } := by
    rw [Parts.ofRest, if_neg (by simp)]
  have hpieces := piecesFrom_name (show staysInHost true [] = true from rfl)
    domain.isNameChar_of_mem
  rw [hpattern, matches_host_iff (by simp), hparts]
  simp only [Parts.pieces, beq_self_eq_true, hpieces, piecesMatch_name]
  constructor
  · rintro ⟨x, y, z, hurl, hlead, ⟨mark, hmark, rfl⟩, -⟩
    exact ⟨x, mark, z, by simpa using hurl, hlead, hmark⟩
  · rintro ⟨x, mark, z, hurl, hlead, hmark⟩
    exact ⟨x, domain.text.toList ++ [mark], z, by simpa using hurl, hlead,
      ⟨mark, hmark, rfl⟩, fun hended => absurd hended Bool.false_ne_true⟩

/-- A pattern that begins with a domain matches only where the domain stands behind a
lead. -/
theorem exists_isHostLead_of_matches
    {domain : HostName}
    {rest : List Char}
    {url : String}
    (h : Matches (String.ofList ('|' :: '|' :: (domain.text.toList ++ rest))) url) :
    ∃ x z, url.toList = x ++ (domain.text.toList ++ z) ∧ IsHostLead x := by
  have hne : domain.text.toList ≠ [] := String.toList_eq_nil_iff.not.mpr domain.ne_empty
  rw [matches_host_iff (List.append_ne_nil_of_left_ne_nil hne rest)] at h
  obtain ⟨x, y, z, hurl, hlead, hpieces, -⟩ := h
  -- the sign of an end is none of the domain
  obtain ⟨more, hbody⟩ : ∃ more, (Parts.ofRest .host (domain.text.toList ++ rest)).body =
      domain.text.toList ++ more := by
    rw [Parts.ofRest]
    split
    · next hlast =>
        have hrest : rest ≠ [] := by
          rintro rfl
          rw [List.append_nil] at hlast
          exact domain.notMem (d := '|') (by decide) (List.mem_of_getLast? hlast)
        exact ⟨rest.dropLast, List.dropLast_append_of_ne_nil hrest⟩
    · exact ⟨rest, rfl⟩
  rw [Parts.pieces, hbody, piecesFrom_append_name _ _ _ domain.isNameChar_of_mem,
    piecesMatch_append_name] at hpieces
  obtain ⟨y', rfl, -⟩ := hpieces
  exact ⟨x, y' ++ z, by simpa using hurl, hlead⟩

/-- **A domain with nothing behind it matches wherever it stands behind a lead**, whatever
follows. -/
theorem matches_bareName_iff
    (domain : HostName)
    (url : String) :
    Matches (String.ofList ('|' :: '|' :: domain.text.toList)) url ↔
      ∃ x z, url.toList = x ++ (domain.text.toList ++ z) ∧ IsHostLead x := by
  constructor
  · intro h
    refine @exists_isHostLead_of_matches domain [] url ?_
    rwa [List.append_nil]
  · rintro ⟨x, z, hurl, hlead⟩
    have hne : domain.text.toList ≠ [] := String.toList_eq_nil_iff.not.mpr domain.ne_empty
    have hparts : Parts.ofRest .host domain.text.toList =
        { lead := .host, body := domain.text.toList, isEnded := false } := by
      rw [Parts.ofRest, if_neg fun hlast =>
        domain.notMem (d := '|') (by decide) (List.mem_of_getLast? hlast)]
    rw [matches_host_iff hne, hparts]
    refine ⟨x, domain.text.toList, z, by rw [hurl, List.append_assoc], hlead, ?_,
      fun hended => absurd hended Bool.false_ne_true⟩
    have hpieces := piecesFrom_append_name true false [] domain.isNameChar_of_mem []
    rw [List.append_nil] at hpieces
    rw [Parts.pieces, beq_self_eq_true, hpieces, piecesMatch_append_name]
    exact ⟨[], (List.append_nil _).symm, rfl⟩

/-! ## The cut of a URL at its host -/

theorem not_endsHost_of_isNameChar
    {c : Char}
    (hc : isNameChar c) :
    ¬ Url.EndsHost c := by
  rintro (rfl | rfl)
  · exact Domain.ne_of_isNameChar hc (d := '/') (by decide) rfl
  · exact Domain.ne_of_isNameChar hc (d := ':') (by decide) rfl

/-- Labels in front of a domain, with the dot that ends them. -/
def IsLabels (labels : List Char) : Prop :=
  labels = [] ∨ ∃ label, labels = label ++ ['.'] ∧ label ≠ [] ∧ ':' ∉ label ∧ '/' ∉ label

theorem IsLabels.not_endsHost
    {labels : List Char}
    (h : IsLabels labels) :
    ∀ c ∈ labels, ¬ Url.EndsHost c := by
  rcases h with rfl | ⟨label, rfl, -, hcolon, hslash⟩
  · exact List.forall_mem_nil _
  · rw [List.forall_mem_append, List.forall_mem_singleton]
    refine ⟨?_, not_endsHost_of_isNameChar (by decide)⟩
    rintro c hc (rfl | rfl)
    · exact hslash hc
    · exact hcolon hc

/-- **A host is within a domain if it is the domain with labels in front of it.** -/
theorem isWithin_iff_exists_labels
    (host domain : HostName) :
    Domain.isWithin host.text domain.text ↔
      ∃ labels, IsLabels labels ∧ host.text.toList = labels ++ domain.text.toList := by
  rw [Domain.isWithin_iff]
  constructor
  · rintro (heq | ⟨-, label, hlabel⟩)
    · exact ⟨[], .inl rfl, congrArg String.toList heq⟩
    · have hne : label ≠ [] := by
        rintro rfl
        exact host.head?_ne (by rw [← hlabel]; rfl)
      have hnotMem : ∀ d, isNameChar d = false → d ∉ label := by
        intro d hd hmem
        exact host.notMem hd (hlabel ▸ List.mem_append_left _ hmem)
      exact ⟨label ++ ['.'], .inr ⟨label, rfl, hne, hnotMem ':' (by decide), hnotMem '/' (by decide)⟩,
        by rw [← hlabel, List.append_assoc]; rfl⟩
  · rintro ⟨_, rfl | ⟨label, rfl, -⟩, hhost⟩
    · exact .inl (String.toList_injective hhost)
    · exact .inr ⟨domain.ne_empty, label, by rw [hhost, List.append_assoc]; rfl⟩

/-- A host does not begin with a slash. -/
theorem head?_append_ne_slash
    {host : String}
    (hne : host ≠ "")
    (hname : ∀ c ∈ host.toList, isNameChar c)
    (rest : List Char) :
    (host.toList ++ rest).head? ≠ some '/' := by
  obtain ⟨c, tail, hhost⟩ := List.exists_cons_of_ne_nil (String.toList_eq_nil_iff.not.mpr hne)
  rw [hhost, List.cons_append, List.head?_cons, Ne, Option.some_inj]
  rintro rfl
  exact Domain.notMem_of_isNameChar hname (by decide) (hhost ▸ List.mem_cons_self)

/-- A lead in front of a text ends in the host: behind the scheme and two slashes it has some
labels only. -/
theorem exists_labels_of_isHostLead
    {scheme after x y : List Char}
    (hscheme : ':' ∉ scheme)
    (hafter : after.head? ≠ some '/')
    (hurl : scheme ++ ':' :: '/' :: '/' :: after = x ++ y)
    (hlead : IsHostLead x) :
    ∃ labels, IsLabels labels ∧ after = labels ++ y := by
  obtain ⟨scheme', slashes, labels, rfl, ⟨-, hscheme'⟩, ⟨hlength, hslashes⟩, hlabels⟩ := hlead
  refine ⟨labels, hlabels, ?_⟩
  -- the scheme ends at the first colon
  rw [List.append_assoc, List.cons_append, List.append_assoc] at hurl
  obtain ⟨-, -, hrest⟩ := Text.append_cons_inj (· = ':')
    (fun c hc hcolon => hscheme (hcolon ▸ hc))
    (fun c hc hcolon => hscheme' (hcolon ▸ hc)) rfl rfl hurl
  -- no third slash follows
  obtain _ | ⟨a, _ | ⟨b, more⟩⟩ := slashes
  · simp at hlength
  · simp at hlength
  simp only [List.cons_append, List.cons.injEq] at hrest
  obtain ⟨-, -, hrest⟩ := hrest
  cases more with
  | nil => exact hrest
  | cons c more =>
      have hc : c = '/' := hslashes c (by simp)
      rw [hrest, hc] at hafter
      exact absurd rfl hafter

/-- What stands in front of a name in a URL is the scheme, two slashes and the labels of the
host. -/
theorem host_eq_of_isHostLead
    {url : Url}
    {domain : HostName}
    {x z : List Char}
    {mark : Char}
    (hurl : url.text.toList = x ++ (domain.text.toList ++ mark :: z))
    (hlead : IsHostLead x)
    (hmark : Url.EndsHost mark) :
    ∃ labels, IsLabels labels ∧ url.host.text.toList = labels ++ domain.text.toList := by
  have hafter : (url.host.text.toList ++ url.rest.toList).head? ≠ some '/' :=
    head?_append_ne_slash url.host.ne_empty url.host.isNameChar_of_mem _
  obtain ⟨labels, hlabels, hcut⟩ :=
    exists_labels_of_isHostLead url.colon_notMem_scheme hafter
      (by simpa [Url.text] using hurl) hlead
  -- the host ends at the first slash or colon after it
  obtain ⟨mark', rest, hrest, hmark'⟩ := url.endsHost_head
  rw [hrest, ← List.append_assoc] at hcut
  obtain ⟨hhost, -, -⟩ := Text.append_cons_inj Url.EndsHost
    (fun c hc => not_endsHost_of_isNameChar (url.host.isNameChar_of_mem c hc))
    (List.forall_mem_append.mpr ⟨hlabels.not_endsHost,
      fun c hc => not_endsHost_of_isNameChar (domain.isNameChar_of_mem c hc)⟩)
    hmark' hmark hcut
  exact ⟨labels, hlabels, hhost⟩

/-- Two slashes and labels behind a scheme are a lead. -/
theorem isHostLead_append_labels
    {scheme : String}
    (hne : scheme ≠ "")
    (hcolon : ':' ∉ scheme.toList)
    {labels : List Char}
    (h : IsLabels labels) :
    IsHostLead (scheme.toList ++ ':' :: (['/', '/'] ++ labels)) :=
  ⟨scheme.toList, ['/', '/'], labels, rfl, ⟨String.toList_eq_nil_iff.not.mpr hne, hcolon⟩,
    ⟨le_rfl, by simp⟩, h⟩

/-- Labels that are left out behind the scheme of a URL are a lead. -/
theorem isHostLead_scheme
    (url : Url)
    {labels : List Char}
    (h : IsLabels labels) :
    IsHostLead (url.scheme.toList ++ ':' :: (['/', '/'] ++ labels)) :=
  isHostLead_append_labels url.scheme_ne_empty url.colon_notMem_scheme h

theorem allAscii_name
    (domain : HostName) :
    ∀ c ∈ ("||" ++ domain.text ++ "^").toList, Text.isAscii c = true := by
  simp only [String.toList_append, List.forall_mem_append]
  refine ⟨⟨List.all_eq_true.mp rfl, fun c hc => ?_⟩, List.all_eq_true.mp rfl⟩
  exact Domain.isAscii_of_isNameChar (domain.isNameChar_of_mem c hc)

/-- **A pattern that names a domain matches the URLs of the domain and its subdomains**, and
no others. -/
theorem matches_domain_iff
    (domain : HostName) :
    ∃ regex, toRegex ("||" ++ domain.text ++ "^") = .ok regex ∧
      ∀ url : Url,
        Regex.Matches regex url.text ↔ Domain.isWithin url.host.text domain.text := by
  obtain ⟨regex, t, hregex, htext, hmatches⟩ := exists_source_of_isAscii _ (allAscii_name domain)
  refine ⟨regex, hregex, fun url => ?_⟩
  rw [Regex.matches_iff_of_text htext, hmatches, matches_name_iff, isWithin_iff_exists_labels]
  constructor
  · rintro ⟨x, mark, z, hurl, hlead, hmark⟩
    exact host_eq_of_isHostLead hurl hlead hmark
  · rintro ⟨labels, hlabels, hhost⟩
    obtain ⟨mark, after, hrest, hmark⟩ := url.endsHost_head
    refine ⟨_, mark, after, ?_, isHostLead_scheme url hlabels, hmark⟩
    simp [Url.text, hhost, hrest]

/-- A subdomain with a port is matched, and a domain that only ends alike is not. -/
theorem matches_domain_port :
    ∃ regex, toRegex "||example.com^" = .ok regex ∧
      Regex.Matches regex "http://sub.example.com:8080/" ∧
        ¬ Regex.Matches regex "https://notexample.com/" := by
  have hname : ∀ s : String, s.toList.all isNameChar = true → ∀ c ∈ s.toList, isNameChar c :=
    fun _ => List.all_eq_true.mp
  have hsub : Domain.isWithin "sub.example.com" "example.com" = true := by decide +kernel
  have hother : ¬ Domain.isWithin "notexample.com" "example.com" = true := by decide +kernel
  obtain ⟨regex, hregex, hmatches⟩ :=
    matches_domain_iff ⟨"example.com", by decide, hname _ rfl, by decide⟩
  refine ⟨regex, hregex, ?_, ?_⟩
  · have hurl := hmatches
      { scheme := "http"
        host := ⟨"sub.example.com", by decide, hname _ rfl, by decide⟩
        rest := ":8080/"
        scheme_ne_empty := by decide
        colon_notMem_scheme := by decide
        slash_notMem_scheme := by decide
        endsHost_head := ⟨':', "8080/".toList, rfl, .inr rfl⟩ }
    exact hurl.mpr hsub
  · have hurl := hmatches
      { scheme := "https"
        host := ⟨"notexample.com", by decide, hname _ rfl, by decide⟩
        rest := "/"
        scheme_ne_empty := by decide
        colon_notMem_scheme := by decide
        slash_notMem_scheme := by decide
        endsHost_head := ⟨'/', [], rfl, .inl rfl⟩ }
    exact hurl.not.mpr hother

end Pattern
end FilterCompiler
