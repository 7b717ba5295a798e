import Mathlib.Data.Nat.Digits.Defs
import Rehearsal.Proofs.Configuring
import Rehearsal.Proofs.Text.Trimming

/-!
# The timeout of the environment

The environment may hold a timeout as a text. `States` is the grammar of such texts, with the number
that each states, said without the reader: blanks, at most one plus sign, decimal digits, blanks.
Reading accepts just the texts of numbers that are positive and fit in 64 bits, gives a timeout of
exactly so many milliseconds with a grace cut to it, and tells zero apart from all other texts.
-/

namespace Rehearsal.Config

/-! ## The grammar -/

/-- The number that decimal digits write, the first of which counts most. -/
def numberOf (digits : List Char) : Nat :=
  Nat.ofDigits 10 (digits.reverse.map fun c => c.toNat - '0'.toNat)

/-- A text states a number: between blanks, perhaps behind a plus sign, stand its digits. There may
be zeros in front of them. -/
inductive States : List Char → Nat → Prop where
  | digits {left sign digits right : List Char} (left_blank : ∀ c ∈ left, Text.isBlank c)
      (right_blank : ∀ c ∈ right, Text.isBlank c) (at_most_plus : sign = [] ∨ sign = ['+'])
      (some : digits ≠ []) (decimal : ∀ c ∈ digits, c.isDigit) :
    States (left ++ (sign ++ digits) ++ right) (numberOf digits)

variable {cs : List Char} {n m : Nat} {raw : String}

/-- Summing up digits from the first on comes to the number that they write. -/
theorem foldl_eq_numberOf (cs : List Char) :
    cs.foldl (fun n c => n * 10 + (c.toNat - '0'.toNat)) 0 = numberOf cs := by
  induction cs using List.reverseRecOn with
  | nil => rfl
  | append_singleton cs c ih =>
    rw [List.foldl_append, ih, numberOf, numberOf, List.reverse_append, List.reverse_singleton,
      List.singleton_append, List.map_cons, Nat.ofDigits_cons, List.foldl_cons, List.foldl_nil,
      Nat.mul_comm, Nat.add_comm]

theorem decimal?_eq_some : decimal? cs = some n ↔
    cs ≠ [] ∧ (∀ c ∈ cs, c.isDigit) ∧ numberOf cs = n := by
  unfold decimal?
  rw [foldl_eq_numberOf]
  by_cases refused : (cs.isEmpty || !cs.all Char.isDigit) = true
  · rw [if_pos refused]
    refine iff_of_false (nomatch ·) fun ⟨filled, decimal, _⟩ => ?_
    simp [filled, List.all_eq_true.mpr decimal] at refused
  · rw [if_neg refused, Option.some.injEq]
    simp only [Bool.or_eq_true, List.isEmpty_iff, Bool.not_eq_true', not_or, Bool.not_eq_false,
      List.all_eq_true] at refused
    exact ⟨fun value => ⟨refused.1, refused.2, value⟩, fun stated => stated.2.2⟩

/-- A text without the plus sign that it may start with. -/
def unsigned : List Char → List Char
  | '+' :: cs => cs
  | cs => cs

theorem unsigned_eq {sign : List Char} (at_most_plus : sign = [] ∨ sign = ['+'])
    (decimal : ∀ c ∈ cs, c.isDigit) : unsigned (sign ++ cs) = cs := by
  rcases at_most_plus with rfl | rfl
  · rw [List.nil_append, unsigned.eq_2]
    rintro rest rfl
    exact absurd (decimal '+' List.mem_cons_self) (by decide)
  · rfl

theorem exists_unsigned (cs : List Char) :
    ∃ sign, (sign = [] ∨ sign = ['+']) ∧ cs = sign ++ unsigned cs := by
  unfold unsigned
  split
  · exact ⟨['+'], .inr rfl, rfl⟩
  · exact ⟨[], .inl rfl, rfl⟩

theorem isBlank_eq_false_of_isDigit {c : Char} (digit : c.isDigit) : Text.isBlank c = false := by
  simp only [Char.isDigit, Bool.and_eq_true, decide_eq_true_eq] at digit
  have low : 0x30 ≤ c.toNat := digit.1
  have high : c.toNat ≤ 0x39 := digit.2
  exact Text.isBlank_eq_false (by omega) (by omega)

/-- Reading finds the number that a text states, and none that it does not state. -/
theorem states_iff : States cs n ↔ decimal? (unsigned (Text.trim cs)) = some n := by
  constructor
  · rintro @⟨left, sign, digits, right, left_blank, right_blank, at_most_plus, some, decimal⟩
    have visible : ∀ c ∈ sign ++ digits, Text.isBlank c = false := by
      refine List.forall_mem_append.mpr
        ⟨fun c hc => ?_, fun c hc => isBlank_eq_false_of_isDigit (decimal c hc)⟩
      rcases at_most_plus with rfl | rfl
      · cases hc
      · rw [List.mem_singleton.mp hc]
        rfl
    rw [Text.trim_pad left_blank right_blank, Text.trim_of_visible visible,
      unsigned_eq at_most_plus decimal]
    exact decimal?_eq_some.mpr ⟨some, decimal, rfl⟩
  · intro read
    obtain ⟨some, decimal, value⟩ := decimal?_eq_some.mp read
    obtain ⟨left, right, left_blank, right_blank, padded⟩ := Text.exists_pad cs
    obtain ⟨sign, at_most_plus, signed⟩ := exists_unsigned (Text.trim cs)
    rw [signed] at padded
    rw [padded, ← value]
    exact .digits left_blank right_blank at_most_plus some decimal

/-- A text states one number at most. -/
theorem States.unique (h : States cs n) (h' : States cs m) : n = m :=
  Option.some.inj ((states_iff.mp h).symm.trans (states_iff.mp h'))

/-! ## Reading -/

theorem milliseconds?_eq (raw : String) : milliseconds? raw =
    (decimal? (unsigned (Text.trim raw.toList))).bind fun n =>
      if n < UInt64.size then some (UInt64.ofNat n) else none := by
  unfold milliseconds?
  dsimp only
  split
  · next n read =>
    have read : decimal? (unsigned (Text.trim raw.toList)) = some n := read
    rw [read, Option.bind_some]
  · next unread =>
    have unread : decimal? (unsigned (Text.trim raw.toList)) = none := unread
    rw [unread, Option.bind_none]

theorem milliseconds?_eq_some {millis : UInt64} :
    milliseconds? raw = some millis ↔ States raw.toList millis.toNat := by
  rw [milliseconds?_eq, Option.bind_eq_some_iff, states_iff]
  constructor
  · rintro ⟨n, read, fits⟩
    split at fits
    · next small =>
      cases fits
      rw [UInt64.toNat_ofNat_of_lt' small, read]
    · cases fits
  · intro read
    exact ⟨_, read, by rw [if_pos millis.toNat_lt, UInt64.ofNat_toNat]⟩

/-- A number that fits in 64 bits is found. -/
theorem milliseconds?_of_states (h : States raw.toList n) (fits : n < 2 ^ 64) :
    milliseconds? raw = some (UInt64.ofNat n) :=
  milliseconds?_eq_some.mpr (by rwa [UInt64.toNat_ofNat_of_lt' fits])

theorem milliseconds?_eq_none :
    milliseconds? raw = none ↔ ¬∃ n < 2 ^ 64, States raw.toList n := by
  constructor
  · rintro unread ⟨n, fits, stated⟩
    rw [milliseconds?_of_states stated fits] at unread
    cases unread
  · intro unstated
    refine Option.eq_none_iff_forall_ne_some.mpr fun millis read => unstated ?_
    exact ⟨millis.toNat, millis.toNat_lt, milliseconds?_eq_some.mp read⟩

/-- A grace that is cut to the timeout is never too long for it. -/
theorem new_min (timeout grace : Duration) : new timeout (grace.min timeout) =
    if timeout = .zero then .error .zeroTimeout else .ok ⟨timeout, grace.min timeout⟩ := by
  have cut : ¬ timeout < grace.min timeout := by
    rw [Duration.not_lt, Duration.min]
    split
    · assumption
    · exact Nat.le_refl _
  rw [new, if_neg cut]

theorem override_of_states (c : Config) (h : States raw.toList n) (fits : n < 2 ^ 64) :
    c.override raw =
      if n = 0 then .error .zeroTimeout
      else .ok ⟨.ofMilliseconds (UInt64.ofNat n),
        c.failureGrace.min (.ofMilliseconds (UInt64.ofNat n))⟩ := by
  have nothing : Duration.ofMilliseconds (UInt64.ofNat n) = .zero ↔ n = 0 := by
    rw [Duration.ofMilliseconds, Duration.zero, Duration.mk.injEq, UInt64.toNat_ofNat_of_lt' fits]
    omega
  rw [override, milliseconds?_of_states h fits]
  dsimp only
  rw [new_min]
  simp only [nothing]

theorem override_of_not_states (c : Config) (h : ¬∃ n < 2 ^ 64, States raw.toList n) :
    c.override raw = .error (.notMilliseconds raw) := by
  rw [override, milliseconds?_eq_none.mpr h]

/-- What is admitted, and what comes of it. -/
theorem override_eq_ok {c c' : Config} : c.override raw = .ok c' ↔
    ∃ n, States raw.toList n ∧ 1 ≤ n ∧ n < 2 ^ 64 ∧
      c' = ⟨.ofMilliseconds (UInt64.ofNat n),
        c.failureGrace.min (.ofMilliseconds (UInt64.ofNat n))⟩ := by
  constructor
  · intro made
    by_cases stated : ∃ n < 2 ^ 64, States raw.toList n
    · obtain ⟨n, fits, stated⟩ := stated
      rw [override_of_states c stated fits] at made
      split at made
      · cases made
      · next positive =>
        cases made
        exact ⟨n, stated, Nat.one_le_iff_ne_zero.mpr positive, fits, rfl⟩
    · rw [override_of_not_states c stated] at made
      cases made
  · rintro ⟨n, stated, positive, fits, rfl⟩
    rw [override_of_states c stated fits, if_neg (Nat.one_le_iff_ne_zero.mp positive)]

theorem override_ne_graceTooLong (c : Config) (raw : String) :
    c.override raw ≠ .error .graceTooLong := by
  intro refused
  by_cases stated : ∃ n < 2 ^ 64, States raw.toList n
  · obtain ⟨n, fits, stated⟩ := stated
    rw [override_of_states c stated fits] at refused
    split at refused <;> cases refused
  · rw [override_of_not_states c stated] at refused
    cases refused

/-- The whole seconds of so many milliseconds, what is left of them, and the shorter of them and a
second. -/
theorem parts_ofMilliseconds {millis : UInt64} (value : millis.toNat = n) :
    (Duration.ofMilliseconds millis).seconds = n / 1000 ∧
      (Duration.ofMilliseconds millis).subsecond = n % 1000 * 1000000 ∧
      (default.failureGrace.min (.ofMilliseconds millis)).nanoseconds =
        min 1000000000 (n * 1000000) := by
  subst value
  refine ⟨?_, ?_, ?_⟩
  · rw [Duration.seconds, Duration.ofMilliseconds]
    dsimp only
    omega
  · rw [Duration.subsecond, Duration.ofMilliseconds]
    dsimp only
    omega
  · have second : default.failureGrace.nanoseconds = 1000000000 := rfl
    have spelled : (Duration.ofMilliseconds millis).nanoseconds = millis.toNat * 1000000 := rfl
    rw [Duration.min]
    split
    · next shorter =>
      have shorter : default.failureGrace.nanoseconds ≤ _ := shorter
      omega
    · next longer =>
      have longer : ¬ default.failureGrace.nanoseconds ≤ _ := longer
      omega

/-- The value of the environment is a text if it is the UTF-8 of that text. -/
theorem fromUTF8?_eq_some {bytes : ByteArray} {s : String} :
    String.fromUTF8? bytes = some s ↔ bytes = s.toUTF8 := by
  unfold String.fromUTF8?
  split
  · constructor
    · intro decoded
      cases decoded
      rfl
    · rintro rfl
      rfl
  · next invalid =>
    refine iff_of_false (nomatch ·) ?_
    rintro rfl
    exact invalid s.isValidUTF8

theorem fromEnvironment_of_text (raw : String) :
    fromEnvironment (some raw.toUTF8) = default.override raw := by
  rw [fromEnvironment, Option.bind_some, fromUTF8?_eq_some.mpr rfl]

theorem fromEnvironment_of_no_text {value : Option ByteArray}
    (h : ∀ raw : String, value ≠ some raw.toUTF8) : fromEnvironment value = .ok default := by
  have undecoded : value.bind String.fromUTF8? = none := by
    refine Option.eq_none_iff_forall_ne_some.mpr fun raw decoded => ?_
    obtain ⟨bytes, rfl, decoded⟩ := Option.bind_eq_some_iff.mp decoded
    exact h raw (congrArg some (fromUTF8?_eq_some.mp decoded))
  rw [fromEnvironment, undecoded]

/-- **The timeout of the environment.** A variable that is not set, or holds no UTF-8, gives the
default. A text gives a configuration just when it states a number of milliseconds that is positive
and fits in 64 bits; then the timeout is exactly that number, and the grace is a second or the
timeout, whichever is shorter. Zero is refused as a timeout and every other text as no number, which
is shown as it was. That the grace is too long is never reported. -/
theorem environment_override (value : Option ByteArray) :
    ((∀ raw : String, value ≠ some raw.toUTF8) → fromEnvironment value = .ok default) ∧
    (∀ raw : String, value = some raw.toUTF8 →
      ((∃ c, fromEnvironment value = .ok c) ↔ ∃ n, States raw.toList n ∧ 1 ≤ n ∧ n < 2 ^ 64) ∧
      (∀ n c, States raw.toList n → fromEnvironment value = .ok c →
        c.timeout.seconds = n / 1000 ∧ c.timeout.subsecond = n % 1000 * 1000000 ∧
          c.failureGrace.nanoseconds = min 1000000000 (n * 1000000)) ∧
      (States raw.toList 0 → fromEnvironment value = .error .zeroTimeout) ∧
      ((¬∃ n < 2 ^ 64, States raw.toList n) →
        fromEnvironment value = .error (.notMilliseconds raw))) ∧
    fromEnvironment value ≠ .error .graceTooLong ∧
    Fault.zeroTimeout.text = "Invalid configuration value: timeout must be positive" ∧
    ∀ raw, (Fault.notMilliseconds raw).text = "Invalid configuration value: " ++
      ("FLOWLINK_DRIVER_TIMEOUT_MS" ++ " must be a number of milliseconds, got '" ++ raw ++
        "'") := by
  refine ⟨fromEnvironment_of_no_text, ?_, ?_, rfl, fun _ => rfl⟩
  · rintro raw rfl
    rw [fromEnvironment_of_text]
    refine ⟨⟨?_, ?_⟩, fun n c stated made => ?_, fun stated => ?_, override_of_not_states default⟩
    · rintro ⟨c, made⟩
      obtain ⟨n, stated, positive, fits, -⟩ := override_eq_ok.mp made
      exact ⟨n, stated, positive, fits⟩
    · rintro ⟨n, stated, positive, fits⟩
      exact ⟨_, override_eq_ok.mpr ⟨n, stated, positive, fits, rfl⟩⟩
    · obtain ⟨n', stated', -, fits, rfl⟩ := override_eq_ok.mp made
      cases stated.unique stated'
      exact parts_ofMilliseconds (UInt64.toNat_ofNat_of_lt' fits)
    · rw [override_of_states default stated (by decide), if_pos rfl]
  · by_cases text : ∃ raw : String, value = some raw.toUTF8
    · obtain ⟨raw, rfl⟩ := text
      rw [fromEnvironment_of_text]
      exact override_ne_graceTooLong default raw
    · rw [fromEnvironment_of_no_text (not_exists.mp text)]
      exact nofun

/-- Zeros in front, a plus sign and wide blanks do not matter. The first number that is too large is
none, and neither is a digit of another script. -/
theorem environment_override_edges :
    (∃ c, fromEnvironment (some "\u3000+0001500\n".toUTF8) = .ok c ∧ c.timeout.seconds = 1 ∧
      c.timeout.subsecond = 500000000 ∧ c.failureGrace.nanoseconds = 1000000000) ∧
    fromEnvironment (some " +00\t".toUTF8) = .error .zeroTimeout ∧
    fromEnvironment (some "18446744073709551616".toUTF8) =
      .error (.notMilliseconds "18446744073709551616") ∧
    fromEnvironment (some " ٣".toUTF8) = .error (.notMilliseconds " ٣") := by
  have padded : States "\u3000+0001500\n".toList 1500 :=
    @States.digits ['\u3000'] ['+'] "0001500".toList ['\n'] (List.all_eq_true.mp rfl)
      (List.all_eq_true.mp rfl) (.inr rfl) (by decide) (List.all_eq_true.mp rfl)
  have zero : States " +00\t".toList 0 :=
    @States.digits [' '] ['+'] ['0', '0'] ['\t'] (List.all_eq_true.mp rfl)
      (List.all_eq_true.mp rfl) (.inr rfl) (by decide) (List.all_eq_true.mp rfl)
  have tooLarge : States "18446744073709551616".toList (2 ^ 64) :=
    @States.digits [] [] "18446744073709551616".toList [] (List.all_eq_true.mp rfl)
      (List.all_eq_true.mp rfl) (.inl rfl) (by decide) (List.all_eq_true.mp rfl)
  refine ⟨?_, ?_, ?_, ?_⟩
  · obtain ⟨-, texts, -⟩ := environment_override (some "\u3000+0001500\n".toUTF8)
    obtain ⟨admitted, exact, -⟩ := texts _ rfl
    obtain ⟨c, made⟩ := admitted.mpr ⟨1500, padded, by decide, by decide⟩
    exact ⟨c, made, exact 1500 c padded made⟩
  · obtain ⟨-, texts, -⟩ := environment_override (some " +00\t".toUTF8)
    exact (texts _ rfl).2.2.1 zero
  · obtain ⟨-, texts, -⟩ := environment_override (some "18446744073709551616".toUTF8)
    refine (texts _ rfl).2.2.2 fun ⟨n, fits, stated⟩ => ?_
    exact absurd (stated.unique tooLarge) (Nat.ne_of_lt fits)
  · obtain ⟨-, texts, -⟩ := environment_override (some " ٣".toUTF8)
    refine (texts _ rfl).2.2.2 fun ⟨n, _, stated⟩ => ?_
    have unread : decimal? (unsigned (Text.trim " ٣".toList)) = none := by decide
    rw [states_iff, unread] at stated
    cases stated

end Rehearsal.Config
