import PolicySearch.Client.Cache
import PolicySearch.Json.Reader
/-! Line ends are no part of a value. A carriage return can stand between the parts of a value only,
where every blank counts the same; so a text that reads as a value still reads as that value when its
line ends are line feeds, although it is shorter then and there is less fuel for reading it. -/
namespace PolicySearch.Json
open Cache Number Text

variable {α β : Type} {s rest : List Char} {c : Char}

theorem feedsOther (other : c ≠ '\r') (s : List Char) : lineFeeds (c :: s) = c :: lineFeeds s := by
  rw [lineFeeds]
  · intro _ same; exact absurd same other
  · exact other

theorem feedsOpened (other : c ≠ '\r') (s : List Char) :
    lineFeeds (c :: s) = c :: lineFeeds s ∧ (lineFeeds (c :: s)).length = (lineFeeds s).length + 1 := by
  rw [feedsOther other, List.length_cons]
  exact ⟨rfl, rfl⟩

theorem feedsAppend {front : List Char} (absent : '\r' ∉ front) (s : List Char) :
    lineFeeds (front ++ s) = front ++ lineFeeds s := by
  induction front with
  | nil => rfl
  | cons c front ih =>
    have other : c ≠ '\r' := fun same => absent (same ▸ List.mem_cons_self)
    rw [List.cons_append, feedsOther other, ih fun inside => absent (List.mem_cons_of_mem _ inside),
      List.cons_append]

/- A carriage return becomes a line feed, and takes a line feed that follows it along. -/
theorem feedsReturn (s : List Char) :
    ∃ t, lineFeeds ('\r' :: s) = '\n' :: lineFeeds t ∧ (t = s ∨ s = '\n' :: t) := by
  cases s with
  | nil => exact ⟨[], rfl, .inl rfl⟩
  | cons c rest =>
    by_cases feed : c = '\n'
    · subst feed
      exact ⟨rest, rfl, .inr rfl⟩
    · refine ⟨c :: rest, ?_, .inl rfl⟩
      rw [lineFeeds]
      rintro rest' same
      exact feed (List.cons.inj same).1

theorem feedsHead {t : List Char} (other : c ≠ '\n') (same : lineFeeds s = c :: t) :
    c ≠ '\r' ∧ ∃ u, s = c :: u ∧ t = lineFeeds u := by
  cases s with
  | nil => cases same
  | cons d u =>
    by_cases returned : d = '\r'
    · obtain ⟨v, fed, _⟩ := feedsReturn u
      rw [returned, fed] at same
      exact absurd (List.cons.inj same).1.symm other
    · rw [feedsOther returned] at same
      obtain ⟨rfl, rfl⟩ := List.cons.inj same
      exact ⟨returned, u, rfl, rfl⟩

theorem feedsSpan {p : Char → Bool} (noReturn : p '\r' = false) (noFeed : p '\n' = false)
    (s : List Char) :
    (lineFeeds s).takeWhile p = s.takeWhile p ∧
      (lineFeeds s).dropWhile p = lineFeeds (s.dropWhile p) := by
  induction s with
  | nil => exact ⟨rfl, rfl⟩
  | cons c rest ih =>
    by_cases returned : c = '\r'
    · subst returned
      obtain ⟨t, fed, _⟩ := feedsReturn rest
      simp [fed, noReturn, noFeed]
    · rw [feedsOther returned]
      by_cases inside : p c = true
      · simp [inside, ih]
      · simp [inside, feedsOther returned]

theorem feedsSkip (s : List Char) : skip (lineFeeds s) = lineFeeds (skip s) := by
  fun_induction lineFeeds s with
  | case1 => rfl
  | case2 rest ih => simpa [skip, isSpace] using ih
  | case3 rest first ih => simpa [skip, isSpace] using ih
  | case4 c rest first other ih =>
    by_cases space : isSpace c = true
    · simpa [skip, space] using ih
    · simp [skip, space, feedsOther other]

theorem bindRead {read : Except Stop α} {next : α → Except Stop β} {b : β}
    (ok : (read >>= next) = .ok b) : ∃ a, read = .ok a ∧ next a = .ok b := by
  cases read with
  | error stop => cases ok
  | ok a => exact ⟨a, rfl, ok⟩

/- What is read is read from the same text with line feeds too, and takes something of it. -/
def Refed (read : List Char → Except Stop (Taken α)) (a : α) (s rest : List Char) : Prop :=
  read (lineFeeds s) = .ok (a, lineFeeds rest) ∧ (lineFeeds rest).length < (lineFeeds s).length

theorem hexDigits {a b c d : Char} {n : Nat} (read : hexNumber [a, b, c, d] = some n) :
    '\r' ∉ [a, b, c, d] := by
  have none : hexValue '\r' = none := by decide
  simp only [hexNumber, List.foldl_cons, List.foldl_nil, bind, Option.bind_eq_some_iff] at read
  obtain ⟨_, ⟨_, ⟨_, ⟨_, _, _, first, _⟩, _, second, _⟩, _, third, _⟩, _, fourth, _⟩ := read
  intro member
  simp only [List.mem_cons, List.not_mem_nil, or_false] at member
  rcases member with rfl | rfl | rfl | rfl <;> simp_all

theorem feedsNonempty (c : Char) (s : List Char) : ∃ d t, lineFeeds (c :: s) = d :: t := by
  by_cases returned : c = '\r'
  · obtain ⟨t, fed, _⟩ := feedsReturn s
    exact ⟨_, _, returned ▸ fed⟩
  · exact ⟨_, _, feedsOther returned s⟩

theorem unitFeeds {n : Nat} (read : readUnit ('u' :: s) = .ok (n, rest)) :
    Refed readUnit n ('u' :: s) rest := by
  unfold readUnit at read
  split at read
  · rename_i u a b c d next more same
    split at read
    · rename_i value found
      cases read
      obtain ⟨rfl, rfl⟩ := List.cons.inj same
      have fed : lineFeeds ('u' :: a :: b :: c :: d :: next :: more) =
          'u' :: a :: b :: c :: d :: lineFeeds (next :: more) :=
        feedsAppend (List.not_mem_cons_of_ne_of_not_mem (by decide) (hexDigits found)) (next :: more)
      obtain ⟨first, left, nonempty⟩ := feedsNonempty next more
      refine ⟨?_, ?_⟩
      · simp only [fed, nonempty, readUnit, found]
      · simp only [fed, List.length_cons]
        omega
    · cases read
  · cases read

theorem numberedFeeds (read : readNumbered ('u' :: s) = .ok (c, rest)) :
    Refed readNumbered c ('u' :: s) rest := by
  obtain ⟨⟨n, middle⟩, unit, next⟩ := bindRead read
  obtain ⟨again, shorter⟩ := unitFeeds unit
  simp only [Refed, readNumbered, again, bind, Except.bind]
  dsimp only at next
  split at next
  · rename_i more high
    obtain ⟨⟨low, after⟩, second, joined⟩ := bindRead next
    obtain ⟨twice, less⟩ := unitFeeds second
    have fed : lineFeeds ('\\' :: 'u' :: more) = '\\' :: lineFeeds ('u' :: more) :=
      feedsOther (by decide) _
    have start : lineFeeds ('u' :: more) = 'u' :: lineFeeds more := feedsOther (by decide) _
    rw [fed, start] at shorter
    rw [start] at twice less
    simp only [fed, start, high, twice]
    dsimp only at joined
    simp only [List.length_cons] at shorter less
    split at joined
    · rename_i isLow
      obtain ⟨rfl, rfl⟩ := Prod.mk.inj (Except.ok.inj joined)
      rw [if_pos isLow]
      exact ⟨rfl, by omega⟩
    · rename_i isLow
      obtain ⟨rfl, rfl⟩ := Prod.mk.inj (Except.ok.inj joined)
      rw [if_neg isLow, fed, start]
      exact ⟨rfl, by simpa using shorter⟩
  · rename_i other
    cases next
    refine ⟨?_, shorter⟩
    split
    · rename_i more' high fed
      obtain ⟨_, u, rfl, same⟩ := feedsHead (by decide) fed
      obtain ⟨_, v, rfl, _⟩ := feedsHead (by decide) same.symm
      exact absurd rfl (other v high)
    · rfl

theorem escapeFeeds {opened slash : List Char} (read : readEscape opened slash s = .ok (c, rest))
    (opened' slash' : List Char) : Refed (readEscape opened' slash') c s rest := by
  unfold readEscape at read
  split at read
  · cases read
  · rename_i tail
    obtain ⟨again, shorter⟩ := numberedFeeds read
    rw [feedsOther (by decide)] at again
    refine ⟨?_, shorter⟩
    rw [feedsOther (by decide), readEscape, again]
  · rename_i d tail other
    split at read
    · rename_i meant found
      cases read
      have returned : d ≠ '\r' := by
        rintro rfl
        have none : shortEscapes.lookup '\r' = none := by decide
        rw [none] at found
        cases found
      refine ⟨?_, by simp [feedsOther returned]⟩
      rw [feedsOther returned, readEscape, found]
      exact other
    · cases read

/- The same of a reader with fuel: as much of it as there is to take is enough. -/
def Again (read : Nat → List Char → Except Stop (Taken α)) (a : α) (s rest : List Char) : Prop :=
  (lineFeeds rest).length < (lineFeeds s).length ∧
    ∀ fuel, (lineFeeds s).length ≤ fuel + (lineFeeds rest).length →
      read fuel (lineFeeds s) = .ok (a, lineFeeds rest)

/- Readers with fuel spend one of it before they look at the text. -/
theorem Again.ofNext {read : Nat → List Char → Except Stop (Taken α)} {a : α}
    (shorter : (lineFeeds rest).length < (lineFeeds s).length)
    (next : ∀ fuel, (lineFeeds s).length ≤ fuel + 1 + (lineFeeds rest).length →
      read (fuel + 1) (lineFeeds s) = .ok (a, lineFeeds rest)) : Again read a s rest := by
  refine ⟨shorter, fun fuel enough => ?_⟩
  cases fuel with
  | zero => omega
  | succ less => exact next less enough

theorem textAgain {opened text : List Char} {fuel : Nat}
    (read : readText opened fuel s = .ok (text, rest)) (opened' : List Char) :
    Again (readText opened') text s rest := by
  induction fuel generalizing s text with
  | zero => cases read
  | succ fuel ih =>
    obtain ⟨front, back⟩ := feedsSpan (p := isPlain) (by decide) (by decide) s
    have whole := congrArg List.length (List.takeWhile_append_dropWhile (p := isPlain) (l := lineFeeds s))
    rw [back, List.length_append] at whole
    unfold readText at read
    split at read
    · cases read
    · rename_i c tail cut
      rw [cut] at back whole
      split at read
      · rename_i quote
        obtain ⟨rfl, rfl⟩ := Prod.mk.inj (Except.ok.inj read)
        subst quote
        rw [feedsOther (by decide)] at back whole
        simp only [List.length_cons] at whole
        refine .ofNext (by omega) fun fuel' _ => ?_
        simp only [readText, back, front, if_true]
      · split at read
        · rename_i slash
          obtain ⟨⟨meant, middle⟩, escape, next⟩ := bindRead read
          obtain ⟨⟨more, last⟩, following, joined⟩ := bindRead next
          obtain ⟨rfl, rfl⟩ := Prod.mk.inj (Except.ok.inj joined)
          subst slash
          rw [feedsOther (by decide)] at back whole
          simp only [List.length_cons] at whole
          obtain ⟨taken, meansAgain⟩ := (escapeFeeds escape opened' ('\\' :: lineFeeds tail)).symm
          obtain ⟨shorter, again⟩ := ih following
          refine .ofNext (by omega) fun fuel' enough => ?_
          have rest := again fuel' (by omega)
          simp only [readText, back, front, meansAgain, rest, bind, Except.bind, if_true]
          rfl
        · cases read

/- The opening quote needs no fuel. -/
theorem stringAgain {text : String} {fuel : Nat}
    (read : readString fuel ('"' :: s) = .ok (text, rest)) :
    (lineFeeds rest).length < (lineFeeds s).length ∧
      ∀ fuel, (lineFeeds s).length ≤ fuel + (lineFeeds rest).length →
        readString fuel ('"' :: lineFeeds s) = .ok (text, lineFeeds rest) := by
  obtain ⟨⟨inside, left⟩, within, joined⟩ := bindRead read
  cases joined
  obtain ⟨shorter, again⟩ := textAgain within ('"' :: lineFeeds s)
  refine ⟨shorter, fun fuel' enough => ?_⟩
  have next := again fuel' enough
  simp only [List.drop_one, List.tail_cons] at next
  simp only [readString, List.drop_one, List.tail_cons, next]
  rfl

theorem headFeeds (noReturn : c ≠ '\r') (noFeed : c ≠ '\n') (s : List Char) :
    (lineFeeds s).head? = some c ↔ s.head? = some c := by
  constructor
  · intro head
    obtain ⟨t, fed⟩ := List.head?_eq_some_iff.1 head
    obtain ⟨_, u, rfl, _⟩ := feedsHead noFeed fed
    rfl
  · intro head
    obtain ⟨t, rfl⟩ := List.head?_eq_some_iff.1 head
    rw [feedsOther noReturn, List.head?_cons]

theorem tailFeeds (noReturn : c ≠ '\r') (head : s.head? = some c) :
    (lineFeeds s).drop 1 = lineFeeds (s.drop 1) := by
  obtain ⟨t, rfl⟩ := List.head?_eq_some_iff.1 head
  rw [feedsOther noReturn, List.drop_one, List.drop_one, List.tail_cons, List.tail_cons]

theorem prefixFeeds {word : List Char} (noReturn : '\r' ∉ word) (noFeed : '\n' ∉ word)
    (s : List Char) : word.isPrefixOf (lineFeeds s) = word.isPrefixOf s := by
  induction word generalizing s with
  | nil => rfl
  | cons c word ih =>
    simp only [List.mem_cons, not_or] at noReturn noFeed
    cases s with
    | nil => rfl
    | cons d t =>
      by_cases returned : d = '\r'
      · obtain ⟨u, fed, _⟩ := feedsReturn t
        simp [returned, fed, List.isPrefixOf, beq_eq_false_iff_ne.2 (Ne.symm noReturn.1),
          beq_eq_false_iff_ne.2 (Ne.symm noFeed.1)]
      · rw [feedsOther returned, List.isPrefixOf, List.isPrefixOf, ih noReturn.2 noFeed.2]

theorem wordsFeeds (s : List Char) {words : List (String × Json)}
    (plain : ∀ word ∈ words, '\r' ∉ word.1.toList ∧ '\n' ∉ word.1.toList) :
    (words.findSome? fun (word, value) =>
        if word.toList.isPrefixOf (lineFeeds s) then some (value, (lineFeeds s).drop word.length)
        else none) =
      (words.findSome? fun (word, value) =>
        if word.toList.isPrefixOf s then some (value, s.drop word.length) else none).map
          fun found => (found.1, lineFeeds found.2) := by
  induction words with
  | nil => rfl
  | cons word rest ih =>
    obtain ⟨noReturn, noFeed⟩ := plain word List.mem_cons_self
    have later := ih fun other member => plain other (List.mem_cons_of_mem _ member)
    simp only [List.findSome?_cons, prefixFeeds noReturn noFeed s, later]
    by_cases front : word.1.toList.isPrefixOf s = true
    · obtain ⟨t, rfl⟩ := List.isPrefixOf_iff_prefix.1 front
      simp [feedsAppend noReturn, ← String.length_toList]
    · simp [front]

theorem wordFeeds (s : List Char) :
    readWord (lineFeeds s) = (readWord s).map fun found => (found.1, lineFeeds found.2) :=
  wordsFeeds s (by decide)

theorem signFeeds (s : List Char) :
    signed (lineFeeds s) = ((signed s).1, lineFeeds (signed s).2) := by
  cases s with
  | nil => rfl
  | cons c t =>
    by_cases returned : c = '\r'
    · obtain ⟨u, fed, _⟩ := feedsReturn t
      rw [returned, fed]
      exact congrArg (Prod.mk false) fed.symm
    · rw [feedsOther returned]
      by_cases minus : c = '-'
      · rw [minus]
        rfl
      · by_cases plus : c = '+'
        · rw [plus]
          rfl
        · simp [signed, minus, plus, feedsOther returned]

theorem wholePrefix (s : List Char) : wholeDigits s <+: s ∧ '\r' ∉ wholeDigits s := by
  unfold wholeDigits
  split
  · exact ⟨⟨_, rfl⟩, by decide⟩
  · refine ⟨List.takeWhile_prefix isDigit, fun inside => ?_⟩
    have digit := List.all_eq_true.1 (List.all_takeWhile (p := isDigit) (l := s)) _ inside
    exact absurd digit (by decide)

theorem wholeFeeds (s : List Char) :
    wholeDigits (lineFeeds s) = wholeDigits s ∧
      (lineFeeds s).drop (wholeDigits s).length = lineFeeds (s.drop (wholeDigits s).length) := by
  constructor
  · have span := (feedsSpan (p := isDigit) (by decide) (by decide) s).1
    by_cases zero : s.head? = some '0'
    · obtain ⟨t, rfl⟩ := List.head?_eq_some_iff.1 zero
      rw [feedsOther (by decide)]
      rfl
    · have fed : (lineFeeds s).head? ≠ some '0' :=
        fun head => zero ((headFeeds (by decide) (by decide) s).1 head)
      unfold wholeDigits
      split
      · rename_i same
        rw [same] at fed
        exact absurd rfl fed
      · split
        · exact absurd rfl zero
        · exact span
  · obtain ⟨⟨t, same⟩, noReturn⟩ := wholePrefix s
    generalize wholeDigits s = front at same noReturn
    rw [← same, feedsAppend noReturn, List.drop_left, List.drop_left]

theorem fractionFeeds (s : List Char) :
    fractionDigits (lineFeeds s) = ((fractionDigits s).1, lineFeeds (fractionDigits s).2) := by
  unfold fractionDigits
  by_cases point : s.head? = some '.'
  · obtain ⟨digits, left⟩ := feedsSpan (p := isDigit) (by decide) (by decide) (s.drop 1)
    have fed : (lineFeeds s).head? = some '.' := (headFeeds (by decide) (by decide) s).2 point
    simp only [point, fed, tailFeeds (by decide) point, digits, left]
    split <;> rfl
  · have fed : (lineFeeds s).head? ≠ some '.' :=
      fun head => point ((headFeeds (by decide) (by decide) s).1 head)
    simp [point, fed]

theorem exponentMarked (noReturn : c ≠ '\r') (noFeed : c ≠ '\n') (marked : s.head? = some c) :
    exponentPart (lineFeeds s) = ((exponentPart s).1, lineFeeds (exponentPart s).2) := by
  obtain ⟨digits, left⟩ := feedsSpan (p := isDigit) (by decide) (by decide) (signed (s.drop 1)).2
  have fed : (lineFeeds s).head? = some c := (headFeeds noReturn noFeed s).2 marked
  unfold exponentPart
  rw [tailFeeds noReturn marked, signFeeds]
  simp only [marked, fed, digits, left]
  split <;> rfl

theorem exponentFeeds (s : List Char) :
    exponentPart (lineFeeds s) = ((exponentPart s).1, lineFeeds (exponentPart s).2) := by
  by_cases small : s.head? = some 'e'
  · exact exponentMarked (by decide) (by decide) small
  · by_cases large : s.head? = some 'E'
    · exact exponentMarked (by decide) (by decide) large
    · have fed : (lineFeeds s).head? ≠ some 'e' ∧ (lineFeeds s).head? ≠ some 'E' :=
        ⟨fun head => small ((headFeeds (by decide) (by decide) s).1 head),
          fun head => large ((headFeeds (by decide) (by decide) s).1 head)⟩
      simp [exponentPart, small, large, fed]

theorem numberFeeds {value : Json} (read : readNumber s = .ok (value, rest)) :
    readNumber (lineFeeds s) = .ok (value, lineFeeds rest) := by
  have negative : (lineFeeds s).head? = some '-' ↔ s.head? = some '-' :=
    headFeeds (by decide) (by decide) s
  have unsigned : (if s.head? = some '-' then (lineFeeds s).drop 1 else lineFeeds s) =
      lineFeeds (if s.head? = some '-' then s.drop 1 else s) := by
    by_cases minus : s.head? = some '-'
    · rw [if_pos minus, if_pos minus, tailFeeds (by decide) minus]
    · rw [if_neg minus, if_neg minus]
  unfold readNumber at read ⊢
  simp only [negative, unsigned] at read ⊢
  generalize (if s.head? = some '-' then s.drop 1 else s) = magnitude at read
  obtain ⟨whole, left⟩ := wholeFeeds magnitude
  simp only [whole, left, fractionFeeds, exponentFeeds]
  split at read
  · cases read
  · rename_i filled
    rw [if_neg filled]
    split at read
    · rename_i bare
      rw [if_pos bare]
      split at read
      · cases read
      · rename_i few
        obtain ⟨rfl, rfl⟩ := Prod.mk.inj (Except.ok.inj read)
        rw [if_neg few]
    · rename_i parts
      obtain ⟨rfl, rfl⟩ := Prod.mk.inj (Except.ok.inj read)
      rw [if_neg parts]

theorem readWordShorter {found : Json × List Char} (read : readWord s = some found) :
    found.2.length < s.length := by
  obtain ⟨_, ⟨word, value⟩, _, same, hit, _⟩ := List.findSome?_eq_some_iff.1 read
  have filled : ∀ entry ∈ words, 0 < entry.1.length := by decide
  have some : 0 < word.length := filled (word, value) (same ▸ by simp)
  dsimp only at hit
  split at hit
  · rename_i front
    have long := (List.isPrefixOf_iff_prefix.1 front).length_le
    rw [String.length_toList] at long
    rw [← Option.some.inj hit, List.length_drop]
    omega
  · cases hit

theorem fractionLeft (s : List Char) : (fractionDigits s).2.length ≤ s.length := by
  unfold fractionDigits
  dsimp only
  split
  · have left := (List.dropWhile_suffix isDigit (l := s.drop 1)).length_le
    rw [List.length_drop] at left
    exact Nat.le_trans left (Nat.sub_le _ _)
  · exact Nat.le_refl _

theorem signLeft (s : List Char) : (signed s).2.length ≤ s.length := by
  unfold signed
  split <;> simp

theorem exponentLeft (s : List Char) : (exponentPart s).2.length ≤ s.length := by
  unfold exponentPart
  dsimp only
  split
  · have left := (List.dropWhile_suffix isDigit (l := (signed (s.drop 1)).2)).length_le
    have unsigned := signLeft (s.drop 1)
    rw [List.length_drop] at unsigned
    exact Nat.le_trans left (Nat.le_trans unsigned (Nat.sub_le _ _))
  · exact Nat.le_refl _

theorem readNumberShorter {value : Json} (read : readNumber s = .ok (value, rest)) :
    rest.length < s.length := by
  have unsigned : (if s.head? = some '-' then s.drop 1 else s).length ≤ s.length := by
    split
    · rw [List.length_drop]
      omega
    · exact Nat.le_refl _
  unfold readNumber at read
  dsimp only at read
  generalize (if s.head? = some '-' then s.drop 1 else s) = magnitude at read unsigned
  have fraction := fractionLeft (magnitude.drop (wholeDigits magnitude).length)
  have exponent := exponentLeft (fractionDigits (magnitude.drop (wholeDigits magnitude).length)).2
  have whole := (wholePrefix magnitude).1.length_le
  rw [List.length_drop] at fraction
  split at read
  · cases read
  · rename_i filled
    have some : 0 < (wholeDigits magnitude).length := by
      rwa [List.isEmpty_iff, ← ne_eq, ← List.length_pos_iff] at filled
    split at read
    · split at read
      · cases read
      · obtain ⟨_, rfl⟩ := Prod.mk.inj (Except.ok.inj read)
        omega
    · obtain ⟨_, rfl⟩ := Prod.mk.inj (Except.ok.inj read)
      omega

theorem skipShorter (s : List Char) : (lineFeeds (skip s)).length ≤ (lineFeeds s).length := by
  rw [← feedsSkip]
  exact (List.dropWhile_suffix isSpace).length_le

/- A mark behind blanks is found there again. -/
theorem markMet {left : List Char} (plain : c ≠ '\r') (met : skip s = c :: left) :
    skip (lineFeeds s) = c :: lineFeeds left ∧ (lineFeeds left).length < (lineFeeds s).length := by
  have fed : lineFeeds (skip s) = c :: lineFeeds left := by rw [met, feedsOther plain]
  have shorter := skipShorter s
  rw [fed, List.length_cons] at shorter
  exact ⟨(feedsSkip s).trans fed, shorter⟩

/- What the readers of one level of fuel do to every text. -/
structure Level (fuel : Nat) : Prop where
  value : ∀ room s v rest, readValue fuel room s = .ok (v, rest) →
    Again (readValue · room) v s rest
  items : ∀ room s list rest, readItems fuel room s = .ok (list, rest) →
    Again (readItems · room) list s rest
  members : ∀ room s list rest, readMembers fuel room s = .ok (list, rest) →
    Again (readMembers · room) list s rest

theorem stringLevel {fuel room : Nat} {text : String}
    (read : readString fuel ('"' :: s) = .ok (text, rest)) :
    Again (readValue · room) (.str text) ('"' :: s) rest := by
  obtain ⟨shorter, again⟩ := stringAgain read
  obtain ⟨opened, longer⟩ := feedsOpened (show '"' ≠ '\r' by decide) s
  refine .ofNext (by omega) fun fuel' enough => ?_
  simp only [opened, readValue, again fuel' (by omega), bind, Except.bind]

/- A list and an object are read alike: nothing up to the closing mark, or what is inside. -/
theorem enclosedAgain {reader : Nat → List Char → Except Stop (Taken Json)} {opening : Char}
    (closing : Char) (inner : Nat → List Char → Except Stop (Taken α)) (make : α → Json)
    (empty : Json) {v : Json} {fuel : Nat} (opens : opening ≠ '\r')
    (closes : closing ≠ '\r' ∧ closing ≠ '\n')
    (closed : ∀ fuel u left, skip u = closing :: left →
      reader (fuel + 1) (opening :: u) = .ok (empty, left))
    (filled : ∀ fuel u, (∀ left, skip u ≠ closing :: left) →
      reader (fuel + 1) (opening :: u) =
        inner fuel (skip u) >>= fun found => .ok (make found.1, found.2))
    (below : ∀ s list rest, inner fuel s = .ok (list, rest) → Again inner list s rest)
    (read : reader (fuel + 1) (opening :: s) = .ok (v, rest)) :
    Again reader v (opening :: s) rest := by
  obtain ⟨opened, longer⟩ := feedsOpened opens s
  by_cases atOnce : ∃ left, skip s = closing :: left
  · obtain ⟨left, met⟩ := atOnce
    rw [closed fuel s left met] at read
    cases read
    obtain ⟨meets, less⟩ := markMet closes.1 met
    refine .ofNext (by omega) fun fuel' _ => ?_
    rw [opened, closed fuel' _ _ meets]
  · have other : ∀ left, skip s ≠ closing :: left := fun left met => atOnce ⟨left, met⟩
    rw [filled fuel s other] at read
    obtain ⟨⟨list, left⟩, within, joined⟩ := bindRead read
    dsimp only at joined
    cases joined
    obtain ⟨shorter, again⟩ := below _ _ _ within
    have skipped := skipShorter s
    refine .ofNext (by omega) fun fuel' enough => ?_
    rw [opened, filled fuel', feedsSkip, again fuel' (by omega)]
    · rfl
    · intro left fed
      rw [feedsSkip] at fed
      obtain ⟨_, u, same, _⟩ := feedsHead closes.2 fed
      exact other u same

theorem arrayLevel {fuel room : Nat} {v : Json} (below : Level fuel)
    (read : readValue (fuel + 1) room ('[' :: s) = .ok (v, rest)) :
    Again (readValue · room) v ('[' :: s) rest := by
  by_cases full : room = 0
  · simp only [readValue, if_pos full] at read
    cases read
  · refine enclosedAgain ']' (readItems · (room - 1)) .arr (.arr []) (by decide) (by decide)
      ?_ ?_ (below.items (room - 1)) read
    · intro fuel u left same
      simp only [readValue, if_neg full, same]
    · intro fuel u other
      simp only [readValue, if_neg full]

theorem objectLevel {fuel room : Nat} {v : Json} (below : Level fuel)
    (read : readValue (fuel + 1) room ('\x7b' :: s) = .ok (v, rest)) :
    Again (readValue · room) v ('\x7b' :: s) rest := by
  by_cases full : room = 0
  · simp only [readValue, if_pos full] at read
    cases read
  · refine enclosedAgain '\x7d' (readMembers · (room - 1)) ofMembers (.obj []) (by decide) (by decide)
      ?_ ?_ (below.members (room - 1)) read
    · intro fuel u left same
      simp only [readValue, if_neg full, same]
    · intro fuel u other
      simp only [readValue, if_neg full]

/- Neither a string nor a list nor an object. -/
def IsLeaf (s : List Char) : Prop := ∀ t, s ≠ '"' :: t ∧ s ≠ '[' :: t ∧ s ≠ '\x7b' :: t

theorem leafFeeds (leaf : IsLeaf s) : IsLeaf (lineFeeds s) := by
  intro t
  refine ⟨fun fed => ?_, fun fed => ?_, fun fed => ?_⟩ <;>
    obtain ⟨_, u, same, _⟩ := feedsHead (by decide) fed
  · exact (leaf u).1 same
  · exact (leaf u).2.1 same
  · exact (leaf u).2.2 same

theorem leafRead (leaf : IsLeaf s) (fuel room : Nat) :
    readValue (fuel + 1) room s =
      match readWord s with
      | some found => .ok found
      | none => readNumber s := by
  unfold readValue
  split
  · exact absurd rfl (leaf _).1
  · exact absurd rfl (leaf _).2.1
  · exact absurd rfl (leaf _).2.2
  · rfl

theorem leafLevel {fuel room : Nat} {v : Json} (leaf : IsLeaf s)
    (read : readValue (fuel + 1) room s = .ok (v, rest)) : Again (readValue · room) v s rest := by
  rw [leafRead leaf] at read
  have again : (match readWord (lineFeeds s) with
      | some found => (.ok found : Except Stop (Taken Json))
      | none => readNumber (lineFeeds s)) = .ok (v, lineFeeds rest) ∧
        (lineFeeds rest).length < (lineFeeds s).length := by
    rw [wordFeeds]
    cases word : readWord s with
    | some found =>
      rw [word] at read
      cases read
      have fed := wordFeeds s
      rw [word] at fed
      exact ⟨rfl, readWordShorter fed⟩
    | none =>
      rw [word] at read
      exact ⟨numberFeeds read, readNumberShorter (numberFeeds read)⟩
  exact .ofNext again.2 fun fuel' _ => (leafRead (leafFeeds leaf) fuel' room).trans again.1

theorem valueLevel {fuel room : Nat} {v : Json} (below : Level fuel)
    (read : readValue (fuel + 1) room s = .ok (v, rest)) : Again (readValue · room) v s rest := by
  have whole := read
  unfold readValue at read
  split at read
  · obtain ⟨⟨text, left⟩, string, joined⟩ := bindRead read
    cases joined
    exact stringLevel string
  · exact arrayLevel below whole
  · exact objectLevel below whole
  · rename_i noString noArray noObject
    exact leafLevel (fun t => ⟨noString t, noArray t, noObject t⟩) whole

theorem itemsLevel {fuel room : Nat} {list : List Json} (below : Level fuel)
    (read : readItems (fuel + 1) room s = .ok (list, rest)) :
    Again (readItems · room) list s rest := by
  unfold readItems at read
  obtain ⟨⟨item, after⟩, first, next⟩ := bindRead read
  obtain ⟨shorter, again⟩ := below.value _ _ _ _ first
  dsimp only at next
  split at next
  · rename_i left met
    cases next
    obtain ⟨meets, less⟩ := markMet (by decide) met
    refine .ofNext (by omega) fun fuel' enough => ?_
    simp only [readItems, again fuel' (by omega), meets, bind, Except.bind]
  · rename_i left met
    obtain ⟨⟨others, last⟩, following, joined⟩ := bindRead next
    dsimp only at joined
    cases joined
    obtain ⟨meets, less⟩ := markMet (by decide) met
    obtain ⟨fewer, more⟩ := below.items _ _ _ _ following
    have further := skipShorter left
    refine .ofNext (by omega) fun fuel' enough => ?_
    simp only [readItems, again fuel' (by omega), meets, feedsSkip, more fuel' (by omega), bind,
      Except.bind]
  · cases next

theorem membersLevel {fuel room : Nat} {list : List (String × Json)} (below : Level fuel)
    (read : readMembers (fuel + 1) room s = .ok (list, rest)) :
    Again (readMembers · room) list s rest := by
  unfold readMembers at read
  split at read
  · rename_i quote
    obtain ⟨u, rfl⟩ := List.head?_eq_some_iff.1 quote
    obtain ⟨opened, longer⟩ := feedsOpened (show '"' ≠ '\r' by decide) u
    obtain ⟨⟨key, named⟩, string, colon⟩ := bindRead read
    obtain ⟨keyShorter, keyAgain⟩ := stringAgain string
    dsimp only at colon
    split at colon
    · rename_i given met
      obtain ⟨colonMeets, colonLess⟩ := markMet (by decide) met
      have toValue := skipShorter given
      obtain ⟨⟨value, after⟩, first, next⟩ := bindRead colon
      obtain ⟨shorter, again⟩ := below.value _ _ _ _ first
      dsimp only at next
      split at next
      · rename_i left ended
        cases next
        obtain ⟨meets, less⟩ := markMet (by decide) ended
        refine .ofNext (by omega) fun fuel' enough => ?_
        simp only [readMembers, opened, List.head?_cons, if_true, keyAgain fuel' (by omega),
          colonMeets, feedsSkip, again fuel' (by omega), meets, bind, Except.bind]
      · rename_i left parted
        obtain ⟨⟨others, last⟩, following, joined⟩ := bindRead next
        dsimp only at joined
        cases joined
        obtain ⟨meets, less⟩ := markMet (by decide) parted
        obtain ⟨fewer, more⟩ := below.members _ _ _ _ following
        have further := skipShorter left
        refine .ofNext (by omega) fun fuel' enough => ?_
        simp only [readMembers, opened, List.head?_cons, if_true, keyAgain fuel' (by omega),
          colonMeets, feedsSkip, again fuel' (by omega), meets, more fuel' (by omega), bind,
          Except.bind]
      · cases next
    · cases colon
  · cases read

theorem everyLevel (fuel : Nat) : Level fuel := by
  induction fuel with
  | zero =>
    refine ⟨?_, ?_, ?_⟩ <;>
      · intro room s found rest read
        cases read
  | succ fuel below =>
    exact ⟨fun _ _ _ _ => valueLevel below, fun _ _ _ _ => itemsLevel below,
      fun _ _ _ _ => membersLevel below⟩

theorem readAllFeeds {v : Json} (read : readAll s = .ok v) : readAll (lineFeeds s) = .ok v := by
  unfold readAll at read ⊢
  split at read
  · cases read
  · rename_i unmarked
    obtain ⟨⟨value, left⟩, whole, ended⟩ := bindRead read
    obtain ⟨shorter, again⟩ := (everyLevel _).value _ _ _ _ whole
    have skipped := skipShorter s
    have fed : (lineFeeds s).head? ≠ some '\ufeff' :=
      fun head => unmarked ((headFeeds (by decide) (by decide) s).1 head)
    have once := again (2 * (lineFeeds s).length + 2) (by omega)
    dsimp only at ended
    split at ended
    · rename_i nothing
      cases ended
      simp only [if_neg fed, feedsSkip, once, bind, Except.bind, nothing, lineFeeds]
    · cases ended

theorem ofTextFeeds {text : String} {v : Json} (read : ofText text = .ok v) :
    ofText (String.ofList (lineFeeds text.toList)) = .ok v := by
  unfold ofText at read ⊢
  cases whole : readAll text.toList with
  | error stop =>
    rw [whole] at read
    cases read
  | ok value =>
    rw [whole] at read
    cases read
    rw [String.toList_ofList, readAllFeeds whole]
    rfl

end PolicySearch.Json
