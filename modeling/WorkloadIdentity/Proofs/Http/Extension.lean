/-
  WorkloadIdentity.Proofs.Http.Extension ──── **WHAT IS PUT BEHIND A URL.**

  A text is put behind a URL that ends with a slash, and the whole is read as a URL.  Up to the last
  slash nothing changes: the reader stops at slashes on its way, so what comes after the last one
  cannot reach what is before it.  What comes after it is read as the end of a path, with a query and
  a fragment if it has the marks for them, and with dot segments resolved.

  Main results:
    * `Url.IsBase.exists_parse` — everything that a text behind a base can come to
    * `Url.IsBase.extends_iff`  — when it comes to one more segment that stands for the text
-/
import Mathlib.Data.List.Basic
import Mathlib.Data.List.Flatten
import Mathlib.Data.List.TakeWhile
import WorkloadIdentity.Proofs.Http.Escapes

namespace WorkloadIdentity.Url

open Host (percentEncode percentDecode lowerAscii Plain)
open Utf8 (encodeChars)

/-! ## §1. Up to a character that stops. -/

section Stops

variable (p : Char → Bool) {stop : Char} (stays : p stop = false)

include stays

/-- What is dropped ends before the first character that is to stay. -/
theorem dropWhile_stop (front : List Char) :
    ∃ rest, ∀ x, (front ++ stop :: x).dropWhile p = rest ++ stop :: x := by
  induction front with
  | nil => exact ⟨[], fun x => List.dropWhile_cons_of_neg (by simp [stays])⟩
  | cons c front ih =>
    cases hc : p c with
    | false => exact ⟨c :: front, fun x => List.dropWhile_cons_of_neg (by simp [hc])⟩
    | true =>
      obtain ⟨rest, dropped⟩ := ih
      exact ⟨rest, fun x => by rw [List.cons_append, List.dropWhile_cons_of_pos hc, dropped]⟩

/-- So does what is taken. -/
theorem takeWhile_stop (front x : List Char) :
    (front ++ stop :: x).takeWhile p = front.takeWhile p := by
  induction front with
  | nil => exact List.takeWhile_cons_of_neg (by simp [stays])
  | cons c front ih =>
    cases hc : p c with
    | false => rw [List.cons_append, List.takeWhile_cons_of_neg (by simp [hc]),
        List.takeWhile_cons_of_neg (by simp [hc])]
    | true => rw [List.cons_append, List.takeWhile_cons_of_pos hc,
        List.takeWhile_cons_of_pos hc, ih]

end Stops

/-! ## §2. Pieces of a path. -/

theorem splitPath_ne_nil (k : Scheme) (text : List Char) : splitPath k text ≠ [] := by
  cases text with
  | nil => exact List.cons_ne_nil _ _
  | cons c rest =>
    unfold splitPath
    split
    · exact List.cons_ne_nil _ _
    · split <;> exact List.cons_ne_nil _ _

theorem splitPath_slash {k : Scheme} {slash : Char} (isSlash : k.isSlash slash = true)
    (rest : List Char) : splitPath k (slash :: rest) = [] :: splitPath k rest := by
  rw [splitPath, if_pos isSlash]

/-- Before a slash and after it. -/
theorem splitPath_append {k : Scheme} {slash : Char} (isSlash : k.isSlash slash = true)
    (front rest : List Char) :
    splitPath k (front ++ slash :: rest) = splitPath k front ++ splitPath k rest := by
  induction front with
  | nil => exact splitPath_slash isSlash rest
  | cons c front ih =>
    rw [List.cons_append, splitPath, splitPath, ih]
    cases pieces : splitPath k front with
    | nil => exact absurd pieces (splitPath_ne_nil k front)
    | cons piece pieces => split <;> rfl

/-- A text without slashes is one piece. -/
theorem splitPath_whole {k : Scheme} {text : List Char}
    (whole : ∀ c ∈ text, k.isSlash c = false) : splitPath k text = [text] := by
  induction text with
  | nil => rfl
  | cons c rest ih =>
    obtain ⟨here, later⟩ := List.forall_mem_cons.mp whole
    rw [splitPath, ih later]
    simp [here]

/-- A piece is part of the text and has no slash. -/
theorem of_mem_splitPath {k : Scheme} {text piece : List Char} (member : piece ∈ splitPath k text) :
    piece.Sublist text ∧ ∀ c ∈ piece, k.isSlash c = false := by
  induction text generalizing piece with
  | nil =>
    cases List.mem_singleton.mp member
    exact ⟨List.Sublist.slnil, List.forall_mem_nil _⟩
  | cons c rest ih =>
    rw [splitPath] at member
    split at member
    · rcases List.mem_cons.mp member with rfl | later
      · exact ⟨List.nil_sublist _, List.forall_mem_nil _⟩
      · exact ⟨(ih later).1.cons c, (ih later).2⟩
    · rename_i other
      cases pieces : splitPath k rest with
      | nil => exact absurd pieces (splitPath_ne_nil k rest)
      | cons first others =>
        rw [pieces] at member ih
        rcases List.mem_cons.mp member with rfl | later
        · obtain ⟨part, whole⟩ := ih List.mem_cons_self
          exact ⟨part.cons_cons c,
            List.forall_mem_cons.mpr ⟨Bool.eq_false_of_not_eq_true other, whole⟩⟩
        · obtain ⟨part, whole⟩ := ih (List.mem_cons_of_mem _ later)
          exact ⟨part.cons c, whole⟩

/-- The path after a piece that is not the last one. -/
def advance (k : Scheme) (path : List (List Char)) (piece : List Char) : List (List Char) :=
  if isDoubleDot piece then shorten k path
  else if isSingleDot piece then path
  else addPiece k path piece

/-- Pieces are put on a path one after another. -/
theorem resolve_append {k : Scheme} {later : List (List Char)} (some : later ≠ [])
    (path pieces : List (List Char)) :
    resolve k path (pieces ++ later) = resolve k (pieces.foldl (advance k) path) later := by
  induction pieces generalizing path with
  | nil => rfl
  | cons piece pieces ih =>
    obtain ⟨next, rest, more⟩ :=
      List.exists_cons_of_ne_nil (List.append_ne_nil_of_right_ne_nil pieces some)
    rw [List.foldl_cons, ← ih, List.cons_append, more, resolve]
    unfold advance
    split
    · rfl
    · split <;> rfl

theorem addPiece_other {k : Scheme} (other : k ≠ .file) (path : List (List Char))
    (piece : List Char) : addPiece k path piece = path ++ [piece.flatMap (percentEncode inPath)] := by
  unfold addPiece
  split
  · rw [if_neg (fun both => other both.1)]
    rfl
  · rfl

/-- **The end of a path**: its last piece, unless that is a dot segment. -/
theorem resolve_end {k : Scheme} (other : k ≠ .file) (path : List (List Char))
    (pieces : List (List Char)) (last : List Char) :
    ∃ front, resolve k path (pieces ++ [last]) = front ++
      [if isDoubleDot last ∨ isSingleDot last then [] else last.flatMap (percentEncode inPath)] := by
  rw [resolve_append (List.cons_ne_nil _ _), resolve]
  cases isDoubleDot last with
  | true => exact ⟨_, rfl⟩
  | false =>
    cases isSingleDot last with
    | true => exact ⟨_, rfl⟩
    | false =>
      simp only [Bool.false_eq_true, if_false, or_self, addPiece_other other]
      exact ⟨_, rfl⟩

/-! ## §3. A text behind a base. -/

/-- A text without what is dropped at its end and inside it. -/
def trimmed (text : List Char) : List Char :=
  ((text.reverse.dropWhile isBlankAround).reverse).filter (!isBreak ·)

/-- Behind a slash, blanks at the beginning stay. -/
theorem strip_append (front : List Char) :
    ∃ before, ∀ x, strip (front ++ '/' :: x) = before ++ '/' :: trimmed x := by
  obtain ⟨rest, dropped⟩ := dropWhile_stop isBlankAround (by decide : isBlankAround '/' = false) front
  refine ⟨rest.filter (!isBreak ·), fun x => ?_⟩
  have back : (rest ++ '/' :: x).reverse.dropWhile isBlankAround
      = x.reverse.dropWhile isBlankAround ++ '/' :: rest.reverse := by
    have stays : ('/' :: rest.reverse).dropWhile isBlankAround = '/' :: rest.reverse :=
      List.dropWhile_cons_of_neg (by decide)
    rw [List.reverse_append, List.reverse_cons, List.append_assoc, List.singleton_append,
      List.dropWhile_append, stays]
    split
    · rename_i empty
      rw [List.isEmpty_iff.mp empty]
      rfl
    · rfl
  unfold strip trimmed
  rw [dropped, back, List.reverse_append, List.reverse_cons, List.reverse_reverse,
    List.append_assoc, List.singleton_append, List.filter_append,
    List.filter_cons_of_pos (by decide)]

theorem splitScheme_append {front : List Char} {scheme after : List Char}
    (found : splitScheme (front ++ ['/']) = some (scheme, after)) :
    ∃ rest, ∀ x, splitScheme (front ++ '/' :: x) = some (scheme, rest ++ '/' :: x) := by
  cases front with
  | nil => cases found
  | cons c front =>
    have stays : isSchemeChar '/' = false := by decide
    obtain ⟨rest, dropped⟩ := dropWhile_stop isSchemeChar stays (c :: front)
    have taken := takeWhile_stop isSchemeChar stays (c :: front)
    unfold splitScheme at found ⊢
    simp only [List.cons_append] at dropped taken found ⊢
    rw [dropped, taken] at found
    cases letter : isAsciiLetter c with
    | false => simp [letter] at found
    | true =>
      cases rest with
      | nil => simp [letter] at found
      | cons colon rest =>
        by_cases isColon : colon = ':'
        · subst isColon
          simp only [letter, if_true, List.cons_append, Option.some.injEq, Prod.mk.injEq] at found
          refine ⟨rest, fun x => ?_⟩
          rw [dropped, taken, if_pos rfl]
          exact congrArg some (Prod.ext found.1 rfl)
        · simp [letter, isColon] at found

/-- What ends a path has a query or a fragment. -/
theorem tail_eq_nil {k : Scheme} {body : List Char}
    (none : parseTail k (body.dropWhile (!endsPath ·)) = (none, none)) :
    body.dropWhile (!endsPath ·) = [] := by
  cases tail : body.dropWhile (!endsPath ·) with
  | nil => rfl
  | cons c rest =>
    have ends := List.head?_dropWhile_not (!endsPath ·) body
    rw [tail] at ends none
    have ends : endsPath c = true := by simpa using ends
    unfold endsPath at ends
    rcases Bool.or_eq_true_iff.mp ends with mark | mark
    · cases beq_iff_eq.mp mark
      cases none
    · cases beq_iff_eq.mp mark
      cases none

/-- Behind a slash, a path goes on if it has not ended before. -/
theorem endsPath_append {body : List Char} (going : (body ++ ['/']).dropWhile (!endsPath ·) = [])
    (x : List Char) :
    (body ++ '/' :: x).takeWhile (!endsPath ·) = body ++ '/' :: x.takeWhile (!endsPath ·) ∧
      (body ++ '/' :: x).dropWhile (!endsPath ·) = x.dropWhile (!endsPath ·) := by
  have path : ∀ c ∈ body, (!endsPath c) = true := fun c member =>
    List.dropWhile_eq_nil_iff.mp going c (List.mem_append_left _ member)
  constructor
  · rw [List.takeWhile_append_of_pos path, List.takeWhile_cons_of_pos (by decide)]
  · rw [List.dropWhile_append_of_pos path, List.dropWhile_cons_of_pos (by decide)]

/-- Behind a slash of a path come the pieces of what is put there. -/
theorem parsePath_append (standard : Nat) (before : List Char) :
    ∃ front, ∀ x, parsePath (.special standard) (before ++ '/' :: x)
      = resolve (.special standard) front (splitPath (.special standard) x) := by
  have isSlash : (Scheme.special standard).isSlash '/' = true := by simp [Scheme.isSlash]
  have pieces (text x : List Char) : resolve (.special standard) []
      (splitPath (.special standard) (text ++ '/' :: x))
      = resolve (.special standard)
        ((splitPath (.special standard) text).foldl (advance (.special standard)) [])
        (splitPath (.special standard) x) := by
    rw [splitPath_append isSlash, resolve_append (splitPath_ne_nil _ _)]
  unfold parsePath
  cases before with
  | nil => exact ⟨[], fun x => by simp [isSlash]⟩
  | cons c before =>
    cases first : (Scheme.special standard).isSlash c with
    | true =>
      refine ⟨_, fun x => Eq.trans ?_ (pieces before x)⟩
      simp [first]
    | false =>
      refine ⟨_, fun x => Eq.trans ?_ (pieces (c :: before) x)⟩
      simp [first]

theorem resolve_empty {k : Scheme} (other : k ≠ .file) (path : List (List Char)) :
    resolve k path [[]] = path ++ [[]] := by
  rw [resolve, addPiece_other other]
  rfl

/-- **The authority of a URL is read before the first slash behind it**, whatever comes after. -/
theorem parseWithAuthority_slash (standard : Nat) (scheme before : List Char) :
    ∃ place body, ∀ x, parseWithAuthority (.special standard) scheme (before ++ '/' :: x) =
      if place = ['@'] then .error .emptyHost
      else (parseAuthority (some standard) place).map fun p =>
        assemble scheme (some p.1)
          (.segments (parsePath (.special standard)
            (p.2 ++ (body ++ '/' :: x).takeWhile (!endsPath ·))))
          ((body ++ '/' :: x).dropWhile (!endsPath ·)) := by
  have stays : (!(Scheme.special standard).endsAuthority '/') = false := by
    simp [Scheme.endsAuthority]
  have special : (Scheme.special standard).isSpecial = true := rfl
  have region := takeWhile_stop (!(Scheme.special standard).endsAuthority ·) stays before
  obtain ⟨body, dropped⟩ := dropWhile_stop (!(Scheme.special standard).endsAuthority ·) stays before
  generalize before.takeWhile (!(Scheme.special standard).endsAuthority ·) = place at region
  refine ⟨place, body, fun x => ?_⟩
  unfold parseWithAuthority
  rw [region, dropped]
  by_cases lone : place = ['@']
  · simp [lone]
    rfl
  · simp only [lone, false_and, if_false, special, Bool.not_true, Bool.false_eq_true, and_false,
      Scheme.defaultNumber]
    cases parseAuthority (some standard) place <;> rfl

/-- **What is put behind a base** is read as the end of its path, a query and a fragment. -/
theorem parseWithAuthority_append {standard : Nat} {scheme before : List Char} {base : Url}
    (whole : parseWithAuthority (.special standard) scheme (before ++ ['/']) = .ok base)
    (query : base.query = none) (fragment : base.fragment = none) :
    ∃ front, base.path = .segments (front ++ [[]]) ∧ ∀ x,
      parseWithAuthority (.special standard) scheme (before ++ '/' :: x) =
        .ok (assemble scheme base.authority
          (.segments (resolve (.special standard) front
            (splitPath (.special standard) (x.takeWhile (!endsPath ·)))))
          (x.dropWhile (!endsPath ·))) := by
  have other : Scheme.special standard ≠ .file := nofun
  obtain ⟨place, body, read⟩ := parseWithAuthority_slash standard scheme before
  rw [read []] at whole
  by_cases lone : place = ['@']
  · rw [if_pos lone] at whole
    cases whole
  · rw [if_neg lone] at whole
    cases found : parseAuthority (some standard) place with
    | error e =>
      rw [found] at whole
      cases whole
    | ok p =>
      rw [found] at whole
      cases whole
      have goes_on := endsPath_append (tail_eq_nil (k := Scheme.of scheme) (Prod.ext query fragment))
      obtain ⟨front, segments⟩ := parsePath_append standard (p.2 ++ body)
      simp only [List.append_assoc] at segments
      refine ⟨front, ?_, fun x => ?_⟩
      · show Path.segments (parsePath _ (p.2 ++ (body ++ ['/']).takeWhile (!endsPath ·))) = _
        rw [(goes_on []).1, List.takeWhile_nil, segments]
        exact congrArg Path.segments (resolve_empty other front)
      · obtain ⟨taken, left⟩ := goes_on x
        rw [read, if_neg lone, found, taken, left]
        show Except.ok (assemble _ _ (.segments (parsePath _ (p.2 ++ (body ++ _)))) _) = _
        rw [segments]
        rfl

/-! ## §4. The scheme of a URL. -/

/-- What is read, if anything, has a scheme. -/
def Yields (scheme : List Char) (read : Except UrlError Url) : Prop :=
  ∀ u, read = .ok u → u.scheme = scheme

theorem yields_assemble (scheme : List Char) (authority : Option Authority) (path : Path)
    (tail : List Char) : Yields scheme (.ok (assemble scheme authority path tail)) := by
  rintro u ⟨⟩
  rfl

theorem yields_bind {α : Type} {scheme : List Char} {x : Except UrlError α}
    {f : α → Except UrlError Url} (each : ∀ a, Yields scheme (f a)) : Yields scheme (x >>= f) := by
  cases x with
  | error e => exact nofun
  | ok a => exact each a

theorem yields_parseFile (scheme rest : List Char) : Yields scheme (parseFile scheme rest) := by
  unfold parseFile
  dsimp only
  split
  · split
    · -- with a drive letter in the place of a host, and without one
      split <;> split <;> exact yields_bind fun _ => yields_assemble _ _ _ _
    · exact yields_assemble _ _ _ _
  · exact yields_assemble _ _ _ _

theorem yields_parseWithAuthority (k : Scheme) (scheme rest : List Char) :
    Yields scheme (parseWithAuthority k scheme rest) := by
  unfold parseWithAuthority
  dsimp only
  split
  · exact yields_bind fun _ => yields_bind fun _ => yields_assemble _ _ _ _
  · exact yields_bind fun _ => yields_assemble _ _ _ _

/-- A URL has the scheme that its text begins with. -/
theorem scheme_of_parse {text : String} {u : Url} (parsed : parse text = .ok u) :
    ∃ rest, splitScheme (strip text.toList) = some (u.scheme, rest) := by
  unfold parse at parsed
  cases found : splitScheme (strip text.toList) with
  | none =>
    rw [found] at parsed
    cases parsed
  | some p =>
    obtain ⟨scheme, rest⟩ := p
    rw [found] at parsed
    have yields : Yields scheme (.ok u) := by
      rw [← parsed]
      dsimp only
      split
      · exact yields_parseFile _ _
      · exact yields_parseWithAuthority _ _ _
      · exact yields_parseWithAuthority _ _ _
      · exact yields_assemble _ _ _ _
      · exact yields_assemble _ _ _ _
    exact ⟨rest, by rw [yields u rfl]⟩

/-! ## §5. Bases. -/

/-- **A base** is a text that is a URL under HTTP, ends with a slash and has neither query nor
fragment. -/
structure IsBase (text : String) (base : Url) : Prop where
  /-- It is a URL. -/
  parsed : parse text = .ok base
  /-- Under HTTP. -/
  http : base.scheme = "http".toList ∨ base.scheme = "https".toList
  /-- It ends with a slash. -/
  slash : text.toList.getLast? = some '/'
  /-- It has no query. -/
  query : base.query = none
  /-- It has no fragment. -/
  fragment : base.fragment = none

/-- **All that a text behind a base can come to.**  There is a path up to the last slash of the
base; its next pieces are those of the text, up to the marks of a query and a fragment. -/
theorem IsBase.exists_parse {text : String} {base : Url} (h : IsBase text base) :
    ∃ standard front, base.path = .segments (front ++ [[]]) ∧ ∀ x : String,
      parse (text ++ x) = .ok (assemble base.scheme base.authority
        (.segments (resolve (.special standard) front (splitPath (.special standard)
          ((trimmed x.toList).takeWhile (!endsPath ·)))))
        ((trimmed x.toList).dropWhile (!endsPath ·))) := by
  obtain ⟨front, chars⟩ := List.getLast?_eq_some_iff.mp h.slash
  obtain ⟨before, stripped⟩ := strip_append front
  obtain ⟨rest, found⟩ := scheme_of_parse h.parsed
  rw [chars, stripped] at found
  have kind : ∃ standard, Scheme.of base.scheme = .special standard := by
    rcases h.http with http | https
    · exact ⟨80, by rw [http]; decide⟩
    · exact ⟨443, by rw [https]; decide⟩
  obtain ⟨standard, kind⟩ := kind
  obtain ⟨after, found⟩ := splitScheme_append found
  have read (x : List Char) (s : String) (whole : s.toList = front ++ '/' :: x) : parse s =
      parseWithAuthority (.special standard) base.scheme
        ((after ++ '/' :: trimmed x).dropWhile (Scheme.special standard).isSlash) := by
    unfold parse
    rw [whole, stripped, found]
    dsimp only
    rw [kind]
  have parsed := h.parsed
  rw [read [] text chars, List.dropWhile_append] at parsed
  -- a base has more than slashes after its scheme, or it would have no host
  cases hosted : after.dropWhile (Scheme.special standard).isSlash with
  | nil =>
    rw [hosted] at parsed
    cases parsed
  | cons c more =>
    rw [hosted] at parsed
    obtain ⟨front', path, whole⟩ := parseWithAuthority_append parsed h.query h.fragment
    refine ⟨standard, front', path, fun x => ?_⟩
    have extended : (text ++ x).toList = front ++ '/' :: x.toList := by
      rw [String.toList_append, chars, List.append_assoc, List.singleton_append]
    rw [read x.toList (text ++ x) extended, List.dropWhile_append, hosted]
    exact whole (trimmed x.toList)

/-! ## §6. One more segment. -/

/-- **A URL extends another by a segment** that stands for a text, and by nothing else. -/
structure Extends (u base : Url) (x : String) : Prop where
  /-- The same scheme. -/
  scheme : u.scheme = base.scheme
  /-- The same authority. -/
  authority : u.authority = base.authority
  /-- The same path with a segment in the place of the empty one at its end. -/
  path : ∃ front last, base.path = .segments (front ++ [[]]) ∧ u.path = .segments (front ++ [last]) ∧
    percentDecode (encodeChars last) = Utf8.encode x
  /-- No query. -/
  query : u.query = none
  /-- No fragment. -/
  fragment : u.fragment = none

/-- **A text that is a segment as it stands**: nothing in it means anything to a reader of URLs. -/
structure IsSegment (x : String) : Prop where
  /-- It has no marks, and no breaks that would be dropped. -/
  marks : ∀ c ∈ x.toList, c ∉ ['/', '\\', '?', '#', '\t', '\n', '\r']
  /-- It ends with no blank that would be dropped. -/
  ending : ∀ c, x.toList.getLast? = some c → ' ' < c
  /-- It is no dot segment. -/
  dots : x ≠ "." ∧ x ≠ ".."
  /-- It has no escapes. -/
  plain : percentDecode (Utf8.encode x) = Utf8.encode x

instance (x : String) : Decidable (IsSegment x) :=
  letI := List.decidableBAll (· ∉ ['/', '\\', '?', '#', '\t', '\n', '\r']) x.toList
  letI := Option.decidableForallMem (p := (' ' < ·)) x.toList.getLast?
  decidable_of_iff ((∀ c ∈ x.toList, c ∉ ['/', '\\', '?', '#', '\t', '\n', '\r']) ∧
    (∀ c ∈ x.toList.getLast?, ' ' < c) ∧ (x ≠ "." ∧ x ≠ "..") ∧
    percentDecode (Utf8.encode x) = Utf8.encode x)
    ⟨fun ⟨marks, ending, dots, plain⟩ => ⟨marks, ending, dots, plain⟩,
      fun ⟨marks, ending, dots, plain⟩ => ⟨marks, ending, dots, plain⟩⟩

theorem dropped_sublist (x : List Char) :
    (x.reverse.dropWhile isBlankAround).reverse.Sublist x := by
  rw [← List.reverse_sublist, List.reverse_reverse]
  exact List.dropWhile_sublist _

theorem trimmed_sublist (x : List Char) : (trimmed x).Sublist x :=
  List.filter_sublist.trans (dropped_sublist x)

/-- When nothing is dropped. -/
theorem trimmed_eq_self_iff {x : List Char} : trimmed x = x ↔
    (∀ c ∈ x, isBreak c = false) ∧ ∀ c, x.getLast? = some c → isBlankAround c = false := by
  have stays : x.reverse.dropWhile isBlankAround = x.reverse ↔
      ∀ c, x.getLast? = some c → isBlankAround c = false := by
    rw [← List.head?_reverse, List.dropWhile_eq_self_iff]
    cases x.reverse <;> simp
  unfold trimmed
  rw [← stays]
  constructor
  · intro same
    -- both steps only leave something out, and nothing is missing in the end
    have all : x.Sublist (x.reverse.dropWhile isBlankAround).reverse := by
      conv_lhs => rw [← same]
      exact List.filter_sublist
    have ending := (dropped_sublist x).antisymm all
    rw [ending] at same
    constructor
    · intro c member
      simpa using List.filter_eq_self.mp same c member
    · rw [← List.reverse_eq_iff]
      exact ending
  · rintro ⟨unbroken, ending⟩
    rw [ending, List.reverse_reverse, List.filter_eq_self]
    intro c member
    rw [unbroken c member, Bool.not_false]

/-- A part of a text with as many bytes is the text. -/
theorem eq_of_sublist_of_encode_le {part x : List Char} (sublist : part.Sublist x)
    (le : (encodeChars x).length ≤ (encodeChars part).length) : part = x := by
  have bytes : (encodeChars part).Sublist (encodeChars x) := sublist.flatMap _
  have same := bytes.eq_of_length_le le
  rw [← Utf8.encode_ofList, ← Utf8.encode_ofList, Utf8.encode_inj] at same
  exact String.ofList_injective same

/-- What means nothing to a reader of URLs. -/
theorem mark_iff (standard : Nat) (c : Char) :
    c ∉ ['/', '\\', '?', '#', '\t', '\n', '\r'] ↔
      (Scheme.special standard).isSlash c = false ∧ endsPath c = false ∧ isBreak c = false := by
  simp only [Scheme.isSlash, Scheme.isSpecial, endsPath, isBreak, List.mem_cons, List.not_mem_nil,
    Bool.or_eq_false_iff, Bool.and_true, beq_eq_false_iff_ne]
  tauto

theorem isBlankAround_eq_false_iff {c : Char} : isBlankAround c = false ↔ ' ' < c := by
  unfold isBlankAround
  rw [decide_eq_false_iff_not, Nat.not_le]
  exact Iff.rfl

section Segments

variable (standard : Nat) {x : String}

/-- A text that is a segment is read as one. -/
theorem IsSegment.resolve_eq (segment : IsSegment x) (front : List (List Char)) :
    (trimmed x.toList).dropWhile (!endsPath ·) = [] ∧
      resolve (.special standard) front
        (splitPath (.special standard) ((trimmed x.toList).takeWhile (!endsPath ·)))
        = front ++ [x.toList.flatMap (percentEncode inPath)] := by
  have free := fun c member => (mark_iff standard c).mp (segment.marks c member)
  have whole : trimmed x.toList = x.toList := trimmed_eq_self_iff.mpr
    ⟨fun c member => (free c member).2.2,
      fun c last => isBlankAround_eq_false_iff.mpr (segment.ending c last)⟩
  have path : ∀ c ∈ x.toList, (!endsPath c) = true := fun c member => by
    rw [(free c member).2.1, Bool.not_false]
  have dots : plainDots x.toList = x.toList := Plain.plainDots segment.plain
  have double : isDoubleDot x.toList = false := by
    unfold isDoubleDot
    rw [dots, beq_eq_false_iff_ne]
    exact fun same => segment.dots.2 (String.toList_injective same)
  have single : isSingleDot x.toList = false := by
    unfold isSingleDot
    rw [dots, beq_eq_false_iff_ne]
    exact fun same => segment.dots.1 (String.toList_injective same)
  rw [whole, List.takeWhile_eq_self_iff.mpr path,
    splitPath_whole fun c member => (free c member).1]
  refine ⟨List.dropWhile_eq_nil_iff.mpr path, ?_⟩
  rw [resolve, double, single, addPiece_other (k := .special standard) nofun]
  rfl

/-- **Only a text that is a segment is read as one that stands for it.** -/
theorem isSegment_of_resolve {front path : List (List Char)} {last : List Char} (filled : x ≠ "")
    (resolved : resolve (.special standard) path
      (splitPath (.special standard) ((trimmed x.toList).takeWhile (!endsPath ·)))
        = front ++ [last])
    (stands : percentDecode (encodeChars last) = Utf8.encode x) : IsSegment x := by
  rcases List.eq_nil_or_concat (splitPath (.special standard)
    ((trimmed x.toList).takeWhile (!endsPath ·))) with none | ⟨pieces, piece, split⟩
  · exact absurd none (splitPath_ne_nil _ _)
  rw [List.concat_eq_append] at split
  obtain ⟨front', resolved'⟩ := resolve_end (k := .special standard) nofun path pieces piece
  rw [split, resolved'] at resolved
  obtain ⟨-, same⟩ := List.append_inj' resolved rfl
  obtain ⟨rfl, -⟩ := List.cons.inj same
  by_cases dots : isDoubleDot piece = true ∨ isSingleDot piece = true
  · -- a dot segment leaves an empty one, which stands for nothing
    rw [if_pos dots] at stands
    exact absurd (Utf8.encode_eq_nil_iff.mp stands.symm) filled
  · rw [if_neg dots, Host.percentDecode_flatMap_percentEncode] at stands
    -- the piece is part of the text, and reading escapes makes nothing longer
    have member : piece ∈ splitPath (.special standard)
        ((trimmed x.toList).takeWhile (!endsPath ·)) := by
      rw [split]
      simp
    obtain ⟨inPath, slashless⟩ := of_mem_splitPath member
    have inTrimmed := inPath.trans (List.takeWhile_sublist _)
    have le : (encodeChars x.toList).length ≤ (encodeChars piece).length := by
      have size := congrArg List.length stands
      have shorter := Host.length_percentDecode_le (encodeChars piece)
      rw [size] at shorter
      exact shorter
    cases eq_of_sublist_of_encode_le (inTrimmed.trans (trimmed_sublist _)) le
    have whole := (trimmed_sublist _).antisymm inTrimmed
    rw [whole] at inPath
    have path := List.takeWhile_eq_self_iff.mp ((List.takeWhile_sublist _).antisymm inPath)
    obtain ⟨unbroken, ending⟩ := trimmed_eq_self_iff.mp whole
    refine ⟨fun c member => (mark_iff standard c).mpr
      ⟨slashless c member, by simpa using path c member, unbroken c member⟩,
      fun c last => isBlankAround_eq_false_iff.mp (ending c last), ⟨?_, ?_⟩, stands⟩
    · rintro rfl
      exact dots (.inr (by decide))
    · rintro rfl
      exact dots (.inl (by decide))

end Segments

/-- **A text behind a base is one more segment exactly if it is a segment as it stands.** -/
theorem IsBase.extends_iff {text : String} {base : Url} (h : IsBase text base) {x : String}
    (filled : x ≠ "") : ∃ u, parse (text ++ x) = .ok u ∧ (u.Extends base x ↔ IsSegment x) := by
  obtain ⟨standard, front, path, parsed⟩ := h.exists_parse
  refine ⟨_, parsed x, ?_, ?_⟩
  · intro extended
    obtain ⟨front', last, -, resolved, stands⟩ := extended.path
    exact isSegment_of_resolve standard filled (Path.segments.inj resolved) stands
  · intro segment
    obtain ⟨tail, resolved⟩ := segment.resolve_eq standard front
    rw [tail, resolved]
    refine ⟨rfl, rfl, ⟨front, _, path, rfl, ?_⟩, rfl, rfl⟩
    rw [Host.percentDecode_flatMap_percentEncode]
    exact segment.plain

example : IsSegment "123456" ∧ ¬ IsSegment ".." ∧ ¬ IsSegment "1?x" ∧ ¬ IsSegment "%37" := by decide

end WorkloadIdentity.Url
