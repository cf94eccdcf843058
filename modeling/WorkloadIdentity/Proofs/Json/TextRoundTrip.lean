/-
  WorkloadIdentity.Proofs.Json.TextRoundTrip ──── **TEXTS, SEQUENCES AND FIELDS ARE READ BACK.**

  The compact text of a value is read back as the value if its parts are.  Texts are, whatever
  characters they have: every character comes back from its escape, and only the closing quote is
  a bare quote.  Numbers are left out: what follows a number decides where it ends.

  Main results:
    * `Json.stringToken_escaped` — a text comes back from between its quotes
    * `Json.ReadBack`            — values that come back, whatever follows them
    * `Json.parse_render`        — the whole text of such a value
-/
import WorkloadIdentity.Json.Printer
import WorkloadIdentity.Json.Reader
import WorkloadIdentity.Proofs.Text.Utf8RoundTrip

namespace WorkloadIdentity.Json

open Utf8 (encodeChars encodeChars_append encodeChars_cons)

/-! ## §1. Steps of the reader of a text. -/

/-- What is read of a text, with more in front of it. -/
def prepend (out : List UInt8) :
    Except Failure (List UInt8 × List UInt8) → Except Failure (List UInt8 × List UInt8) :=
  Except.map fun r => (out ++ r.1, r.2)

@[simp] theorem prepend_nil (r : Except Failure (List UInt8 × List UInt8)) : prepend [] r = r := by
  cases r <;> rfl

theorem prepend_prepend (out more : List UInt8) (r : Except Failure (List UInt8 × List UInt8)) :
    prepend out (prepend more r) = prepend (out ++ more) r := by
  cases r with
  | error e => rfl
  | ok r =>
    show Except.ok (out ++ (more ++ r.1), r.2) = Except.ok (out ++ more ++ r.1, r.2)
    rw [List.append_assoc]

theorem stringBytes_cons {state next : StringState} {b : UInt8} {out : List UInt8}
    (h : stringStep state b = .ok (out, some next)) (rest : List UInt8) :
    stringBytes state (b :: rest) = prepend out (stringBytes next rest) := by
  rw [stringBytes, h]
  rfl

/-- Bytes that stand for themselves. -/
theorem stringBytes_plain {bytes : List UInt8}
    (h : ∀ b ∈ bytes, stringStep .plain b = .ok ([b], some .plain)) (rest : List UInt8) :
    stringBytes .plain (bytes ++ rest) = prepend bytes (stringBytes .plain rest) := by
  induction bytes with
  | nil => exact (prepend_nil _).symm
  | cons b bytes ih =>
    rw [List.cons_append, stringBytes_cons (h b List.mem_cons_self),
      ih fun x hx => h x (List.mem_cons_of_mem b hx), prepend_prepend]
    rfl

/-! ## §2. One character. -/

/-- A byte from the space on that is neither quote nor backslash stands for itself. -/
theorem stringStep_plain {b : UInt8} (quote : b ≠ byte '"') (slash : b ≠ byte '\\')
    (blank : 32 ≤ b.toNat) : stringStep .plain b = .ok ([b], some .plain) := by
  have above : ¬ b < 32 := by
    rw [UInt8.lt_iff_toNat_lt]
    exact Nat.not_lt.mpr blank
  unfold stringStep
  dsimp only
  rw [if_neg quote, if_neg slash, if_neg above]

/-- A character that needs no escape. -/
theorem stringBytes_bare {c : Char} (quote : c ≠ '"') (slash : c ≠ '\\') (blank : 32 ≤ c.toNat)
    (rest : List UInt8) :
    stringBytes .plain (String.utf8EncodeChar c ++ rest)
      = prepend (String.utf8EncodeChar c) (stringBytes .plain rest) := by
  refine stringBytes_plain (fun b hb => ?_) rest
  by_cases ascii : c.toNat < 128
  · rw [Utf8.utf8EncodeChar_ascii ascii] at hb
    cases List.mem_singleton.mp hb
    have kept : (UInt8.ofNat c.toNat).toNat = c.toNat := Utf8.toNat_byte (by omega)
    have other : ∀ d : Char, d.toNat < 128 → c ≠ d → UInt8.ofNat c.toNat ≠ byte d := by
      intro d hd differ same
      have codes := congrArg UInt8.toNat same
      rw [kept, Utf8.toNat_byte (by omega)] at codes
      exact differ (Char.toNat_inj.mp codes)
    exact stringStep_plain (other '"' (by decide) quote) (other '\\' (by decide) slash)
      (by rw [kept]; exact blank)
  · -- a byte above ASCII is none of those that the reader looks for
    have high := Utf8.high_of_mem_utf8EncodeChar (by omega) hb
    refine stringStep_plain ?_ ?_ (by omega)
    · rintro rfl
      exact absurd high (by decide)
    · rintro rfl
      exact absurd high (by decide)

/-- An escape of one letter. -/
theorem stringBytes_letter {letter out : UInt8} (h : escaped? letter = some out)
    (other : letter ≠ byte 'u') (rest : List UInt8) :
    stringBytes .plain (byte '\\' :: letter :: rest) = prepend [out] (stringBytes .plain rest) := by
  have first : stringStep .plain (byte '\\') = .ok ([], some .escape) := rfl
  have second : stringStep .escape letter = .ok ([out], some .plain) := by
    unfold stringStep
    dsimp only
    rw [if_neg other, h]
  rw [stringBytes_cons first, prepend_nil, stringBytes_cons second]

/-- An escape of four digits. -/
theorem stringBytes_digits {n : Nat} (h : n < 32) (rest : List UInt8) :
    stringBytes .plain (byte '\\' :: byte 'u' :: byte '0' :: byte '0' ::
        byte (Text.hexDigit (n / 16)) :: byte (Text.hexDigit (n % 16)) :: rest)
      = prepend (String.utf8EncodeChar (Char.ofNat n)) (stringBytes .plain rest) := by
  have slash : stringStep .plain (byte '\\') = .ok ([], some .escape) := rfl
  have opened : stringStep .escape (byte 'u') = .ok ([], some (.hex none [])) := rfl
  have digit : ∀ (seen : List UInt8) (b : UInt8) (rest : List UInt8), seen.length < 3 →
      stringBytes (.hex none seen) (b :: rest) = stringBytes (.hex none (seen ++ [b])) rest := by
    intro seen b rest short
    have step : stringStep (.hex none seen) b = .ok ([], some (.hex none (seen ++ [b]))) := by
      unfold stringStep
      dsimp only
      rw [if_pos short]
    rw [stringBytes_cons step, prepend_nil]
  have last : stringStep (.hex none [byte '0', byte '0', byte (Text.hexDigit (n / 16))])
        (byte (Text.hexDigit (n % 16)))
      = .ok (String.utf8EncodeChar (Char.ofNat n), some .plain) := by
    interval_cases n <;> rfl
  rw [stringBytes_cons slash, prepend_nil, stringBytes_cons opened, prepend_nil,
    digit _ _ _ (by decide), digit _ _ _ (by decide), digit _ _ _ (by decide)]
  exact stringBytes_cons last rest

/-- Digits are ASCII. -/
theorem utf8EncodeChar_hexDigit {n : Nat} (h : n < 16) :
    String.utf8EncodeChar (Text.hexDigit n) = [byte (Text.hexDigit n)] := by
  interval_cases n <;> rfl

/-- **Every character comes back from its escape.** -/
theorem stringBytes_escapeChar (c : Char) (rest : List UInt8) :
    stringBytes .plain (encodeChars (escapeChar c) ++ rest)
      = prepend (String.utf8EncodeChar c) (stringBytes .plain rest) := by
  unfold escapeChar
  -- in the order in which the writer looks for them: seven letters, digits, the character itself
  split_ifs with quote slash back feed line carriage tab control
  · rw [quote]
    exact stringBytes_letter rfl (by decide) rest
  · rw [slash]
    exact stringBytes_letter rfl (by decide) rest
  · rw [back]
    exact stringBytes_letter rfl (by decide) rest
  · rw [feed]
    exact stringBytes_letter rfl (by decide) rest
  · rw [line]
    exact stringBytes_letter rfl (by decide) rest
  · rw [carriage]
    exact stringBytes_letter rfl (by decide) rest
  · rw [tab]
    exact stringBytes_letter rfl (by decide) rest
  · have read := stringBytes_digits control rest
    rw [Char.ofNat_toNat] at read
    simp only [encodeChars_cons, Utf8.encodeChars_nil, utf8EncodeChar_hexDigit
      (n := c.toNat / 16) (by omega), utf8EncodeChar_hexDigit (n := c.toNat % 16) (by omega)]
    exact read
  · rw [encodeChars_cons, Utf8.encodeChars_nil, List.append_nil]
    exact stringBytes_bare quote slash (Nat.not_lt.mp control) rest

/-! ## §3. Texts. -/

theorem stringBytes_escaped (cs : List Char) (rest : List UInt8) :
    stringBytes .plain (encodeChars (cs.flatMap escapeChar) ++ byte '"' :: rest)
      = .ok (encodeChars cs, rest) := by
  induction cs with
  | nil => rfl
  | cons c cs ih =>
    rw [List.flatMap_cons, encodeChars_append, List.append_assoc, stringBytes_escapeChar, ih]
    rfl

/-- **A text comes back from between its quotes.** -/
theorem stringToken_escaped (s : String) (rest : List UInt8) :
    stringToken (encodeChars (s.toList.flatMap escapeChar) ++ byte '"' :: rest) = .ok (s, rest) := by
  have decoded : Utf8.decode? (encodeChars s.toList) = some s := Utf8.decode?_encode s
  unfold stringToken
  rw [stringBytes_escaped s.toList rest]
  simp only [bind, Except.bind, decoded]

theorem encodeChars_quoted (s : String) (rest : List UInt8) :
    encodeChars (quoted s) ++ rest
      = byte '"' :: (encodeChars (s.toList.flatMap escapeChar) ++ byte '"' :: rest) := by
  show encodeChars ('"' :: s.toList.flatMap escapeChar ++ ['"']) ++ rest = _
  rw [encodeChars_append, List.append_assoc]
  rfl

/-! ## §4. Values that come back. -/

/-- **A value comes back**, whatever follows it: its text opens a value, and reading it ends where
it ends. -/
structure ReadBack (depth : Nat) (v : Json) : Prop where
  /-- The first byte. -/
  opens : ∃ b rest, encodeChars v.chars = b :: rest ∧ isBlank b = false ∧ Opening.of b ≠ .other
  /-- The reader. -/
  read : ∀ rest, value depth (encodeChars v.chars ++ rest) = .ok (v, rest)

theorem skipBlanks_cons {b : UInt8} (h : isBlank b = false) (rest : List UInt8) :
    skipBlanks (b :: rest) = b :: rest := by
  unfold skipBlanks
  rw [List.dropWhile_cons, if_neg (by simp [h])]

theorem readBack_string (depth : Nat) (s : String) : ReadBack depth (.string s) where
  opens := by
    have shape := encodeChars_quoted s []
    rw [List.append_nil] at shape
    exact ⟨_, _, shape, by decide, by decide⟩
  read rest := by
    show value depth (encodeChars (quoted s) ++ rest) = _
    rw [encodeChars_quoted]
    unfold value
    rw [skipBlanks_cons (by decide)]
    dsimp only
    rw [show Opening.of (byte '"') = .quote from by decide]
    dsimp only
    rw [stringToken_escaped]
    rfl

/-! ## §5. Sequences. -/

/-- What is written after an item: a comma and the next one, as often as there are more. -/
def charsAfter : List Json → List Char
  | [] => []
  | v :: rest => ',' :: charsOfItems (v :: rest)

theorem charsOfItems_cons (v : Json) (rest : List Json) :
    charsOfItems (v :: rest) = v.chars ++ charsAfter rest := by
  cases rest with
  | nil =>
    rw [charsOfItems, charsAfter, List.append_nil]
  | cons w rest => rw [charsOfItems, charsAfter]

theorem nextItem_first {b : UInt8} (blank : isBlank b = false) (other : b ≠ byte ']')
    (rest : List UInt8) : nextItem true (b :: rest) = .ok (true, b :: rest) := by
  unfold nextItem
  rw [skipBlanks_cons blank]
  dsimp only
  rw [if_neg other, if_pos rfl]

theorem nextItem_comma {b : UInt8} (blank : isBlank b = false) (other : b ≠ byte ']')
    (rest : List UInt8) : nextItem false (byte ',' :: b :: rest) = .ok (true, b :: rest) := by
  unfold nextItem
  rw [skipBlanks_cons (by decide)]
  dsimp only
  rw [if_neg (by decide), if_neg (by decide), if_pos rfl, skipBlanks_cons blank]
  dsimp only
  rw [if_neg other]

theorem nextItem_end (first : Bool) (rest : List UInt8) :
    nextItem first (byte ']' :: rest) = .ok (false, byte ']' :: rest) := by
  unfold nextItem
  rw [skipBlanks_cons (by decide)]
  dsimp only
  rw [if_pos rfl]

section Loop

variable {α : Type} {item : Parse α} {fuel : Nat} {first : Bool}
  {input start after rest : List UInt8} {x : α} {xs : List α}

theorem items_item (next : nextItem first input = .ok (true, start))
    (one : item start = .ok (x, after)) (more : items item fuel false after = .ok (xs, rest)) :
    items item (fuel + 1) first input = .ok (x :: xs, rest) := by
  rw [items, next]
  simp only [bind, Except.bind, one, more]

theorem items_end (next : nextItem first input = .ok (false, start)) :
    items item (fuel + 1) first input = .ok ([], start.drop 1) := by
  rw [items, next]
  rfl

end Loop

section Sequences

variable {depth : Nat} {vs : List Json}

/-- An item is no bracket that closes. -/
theorem ReadBack.starts {v : Json} (h : ReadBack depth v) :
    ∃ b rest, encodeChars v.chars = b :: rest ∧ isBlank b = false ∧ b ≠ byte ']' := by
  obtain ⟨b, rest, shape, blank, opening⟩ := h.opens
  refine ⟨b, rest, shape, blank, ?_⟩
  rintro rfl
  exact opening (by decide)

/-- The items after the first come back; the induction is on them, and each takes one of the
fuel. -/
theorem items_after (h : ∀ v ∈ vs, ReadBack depth v) {fuel : Nat} (enough : vs.length < fuel)
    (rest : List UInt8) :
    items (value depth) fuel false (encodeChars (charsAfter vs) ++ byte ']' :: rest)
      = .ok (vs, rest) := by
  induction vs generalizing fuel with
  | nil =>
    cases fuel with
    | zero => exact absurd enough (Nat.not_lt_zero _)
    | succ fuel => exact items_end (nextItem_end false rest)
  | cons v vs ih =>
    cases fuel with
    | zero => exact absurd enough (Nat.not_lt_zero _)
    | succ fuel =>
      have first := h v List.mem_cons_self
      have others := ih (fun w hw => h w (List.mem_cons_of_mem v hw)) (Nat.lt_of_succ_lt_succ enough)
      obtain ⟨b, tail, shape, blank, other⟩ := first.starts
      have start := first.read (encodeChars (charsAfter vs) ++ byte ']' :: rest)
      rw [shape] at start
      -- comma, item and the rest are taken off one after another
      have next := nextItem_comma blank other (tail ++ (encodeChars (charsAfter vs) ++ byte ']' :: rest))
      have written : encodeChars (charsAfter (v :: vs)) ++ byte ']' :: rest
          = byte ',' :: b :: (tail ++ (encodeChars (charsAfter vs) ++ byte ']' :: rest)) := by
        rw [charsAfter, charsOfItems_cons, encodeChars_cons, encodeChars_append, shape]
        simp [Utf8.utf8EncodeChar_ascii, byte]
      rw [written]
      exact items_item next start others

/-- **The items of a sequence come back.** -/
theorem items_written (h : ∀ v ∈ vs, ReadBack depth v) {fuel : Nat} (enough : vs.length < fuel)
    (rest : List UInt8) :
    items (value depth) fuel true (encodeChars (charsOfItems vs) ++ byte ']' :: rest)
      = .ok (vs, rest) := by
  cases fuel with
  | zero => exact absurd enough (Nat.not_lt_zero _)
  | succ fuel =>
    cases vs with
    | nil => exact items_end (nextItem_end true rest)
    | cons v vs =>
      have first := h v List.mem_cons_self
      have others := items_after (fun w hw => h w (List.mem_cons_of_mem v hw))
        (Nat.lt_of_succ_lt_succ enough) rest
      obtain ⟨b, tail, shape, blank, other⟩ := first.starts
      have start := first.read (encodeChars (charsAfter vs) ++ byte ']' :: rest)
      rw [charsOfItems_cons, encodeChars_append, List.append_assoc, shape]
      rw [shape] at start
      exact items_item (nextItem_first blank other _) start others

/-- A sequence has no more items than its text has bytes. -/
theorem length_le_charsOfItems (h : ∀ v ∈ vs, ReadBack depth v) :
    vs.length ≤ (encodeChars (charsOfItems vs)).length := by
  induction vs with
  | nil => exact Nat.zero_le _
  | cons v vs ih =>
    have others := ih fun w hw => h w (List.mem_cons_of_mem v hw)
    obtain ⟨b, tail, shape, -⟩ := (h v List.mem_cons_self).opens
    have more : (encodeChars (charsOfItems vs)).length ≤ (encodeChars (charsAfter vs)).length := by
      cases vs with
      | nil => exact Nat.zero_le _
      | cons w vs =>
        rw [charsAfter, encodeChars_cons, List.length_append]
        exact Nat.le_add_left _ _
    rw [charsOfItems_cons, encodeChars_append, shape, List.length_append, List.length_cons,
      List.length_cons]
    omega

theorem readBack_array (h : ∀ v ∈ vs, ReadBack depth v) : ReadBack (depth + 1) (.array vs) where
  opens := ⟨byte '[', _, rfl, by decide, by decide⟩
  read rest := by
    -- the reader's fuel is the length of what is left
    have enough : vs.length < (encodeChars (charsOfItems vs) ++ byte ']' :: rest).length + 1 := by
      have most := length_le_charsOfItems h
      rw [List.length_append]
      omega
    have written : encodeChars (chars (.array vs)) ++ rest
        = byte '[' :: (encodeChars (charsOfItems vs) ++ byte ']' :: rest) := by
      rw [chars, encodeChars_append, List.append_assoc]
      rfl
    rw [written]
    unfold value
    rw [skipBlanks_cons (by decide)]
    dsimp only
    rw [show Opening.of (byte '[') = .bracket from by decide]
    dsimp only
    rw [items_written h enough]
    rfl

end Sequences

/-! ## §6. Objects of one field. -/

theorem nextKey_first (rest : List UInt8) :
    nextKey true (byte '"' :: rest) = .ok (true, rest) := by
  unfold nextKey
  rw [skipBlanks_cons (by decide)]
  dsimp only
  rw [if_neg (by decide), if_pos rfl, if_pos rfl]

theorem nextKey_end (first : Bool) (rest : List UInt8) :
    nextKey first (byte '\x7d' :: rest) = .ok (false, byte '\x7d' :: rest) := by
  unfold nextKey
  rw [skipBlanks_cons (by decide)]
  dsimp only
  rw [if_pos rfl]

theorem colon_cons (rest : List UInt8) : colon (byte ':' :: rest) = .ok rest := by
  unfold colon
  rw [skipBlanks_cons (by decide)]
  dsimp only
  rw [if_pos rfl]

/-- One field and the brace that closes the object. -/
theorem members_single {α : Type} {item : Parse α} {x : α} {start rest : List UInt8}
    (name : String) (one : item start = .ok (x, byte '\x7d' :: rest)) (fuel : Nat) :
    members item (fuel + 2) true
        (encodeChars (quoted name) ++ byte ':' :: start) = .ok ([(name, x)], rest) := by
  have last : members item (fuel + 1) false (byte '\x7d' :: rest) = .ok ([], rest) := by
    rw [members, nextKey_end]
    rfl
  rw [encodeChars_quoted, members, nextKey_first]
  simp only [bind, Except.bind, stringToken_escaped, colon_cons, one, last]

theorem readBack_field {depth : Nat} {v : Json} (name : String) (h : ReadBack depth v) :
    ReadBack (depth + 1) (.object [(name, v)]) where
  opens := ⟨byte '\x7b', _, rfl, by decide, by decide⟩
  read rest := by
    have written : encodeChars (chars (.object [(name, v)])) ++ rest
        = byte '\x7b' :: (encodeChars (quoted name) ++
            byte ':' :: (encodeChars v.chars ++ byte '\x7d' :: rest)) := by
      rw [chars, charsOfFields, encodeChars_append, List.append_assoc, encodeChars_cons,
        encodeChars_append, encodeChars_cons, List.append_assoc, List.append_assoc,
        List.append_assoc]
      rfl
    -- one of the fuel is for the field, one for the brace
    obtain ⟨fuel, enough⟩ : ∃ fuel, (encodeChars (quoted name) ++
        byte ':' :: (encodeChars v.chars ++ byte '\x7d' :: rest)).length + 1 = fuel + 2 := by
      refine ⟨(encodeChars (quoted name) ++
        byte ':' :: (encodeChars v.chars ++ byte '\x7d' :: rest)).length - 1, ?_⟩
      rw [List.length_append, List.length_cons]
      omega
    have one := members_single name (h.read (byte '\x7d' :: rest)) fuel
    rw [written]
    unfold value
    rw [skipBlanks_cons (by decide)]
    dsimp only
    rw [show Opening.of (byte '\x7b') = .brace from by decide]
    dsimp only
    rw [enough, one]
    rfl

/-! ## §7. Whole texts. -/

/-- **Reading the compact text of such a value gives the value.** -/
theorem parse_render {v : Json} (h : ReadBack depthBound v) :
    parse (Utf8.encode v.render) = .ok v := by
  have read := h.read []
  rw [List.append_nil] at read
  unfold parse whole render
  rw [Utf8.encode_ofList, read]
  rfl

end WorkloadIdentity.Json
