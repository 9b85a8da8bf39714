import ExprGateway.Proofs.Http.Finite
import ExprGateway.Proofs.Number.Literals
import ExprGateway.Proofs.Text.Trimming
import ExprGateway.Proofs.Text.Utf8

/-!
# What a reply means

`Verdict` says what comes of a call, one clause for each thing that can come of its request, and a reply
means this and nothing else (`readResult_eq_iff`).

Numbers in replies may have a sign.  A numeral writes one decimal and is read as another, as every
literal is (`Spells`), and up to `lengthLimit` characters these are the same double
(`bodyReads_iff_bodyWrites`).  A longer body can put so many zeros behind its point that only all of its
exponent would make up for them (`bodyReads_farText`).
-/

namespace ExprGateway

open Binary64 Decimal Literal

/-! ## Numerals with a sign -/

/-- A sign or none and a literal, the decimal that it writes and the decimal that is read. -/
inductive SignedSpells : List Char → Bool → Decimal → Decimal → Prop where
  | intro {sign body : List Char} {negative : Bool} {q d : Decimal} : Sign sign negative →
      Spells body q d → SignedSpells (sign ++ body) negative q d

/-- The double of a sign that is nearest to a number is this finite one. -/
inductive RoundsTo (negative : Bool) (q : ℚ) : Float → Prop where
  | intro {r : Nat} : Nearest q r → r < infinityRank → RoundsTo negative q (ofRank negative r)

section Numerals

variable {cs : List Char} {negative : Bool} {q d : Decimal} {x : Float}

/-- A literal has no sign in front. -/
theorem Literal.Spells.splitSign_append {sign : List Char} (h : Spells cs q d)
    (hsign : Sign sign negative) : splitSign (sign ++ cs) = (negative, cs) := by
  cases hsign with
  | plus => rfl
  | minus => rfl
  | none =>
      cases h with
      | plain hm =>
          have hsplit := hm.splitSign_append []
          rwa [List.append_nil] at hsplit
      | scaled hm => exact hm.splitSign_append _

theorem signedSpells_iff :
    SignedSpells cs negative q d ↔ (splitSign cs).1 = negative ∧ Spells (splitSign cs).2 q d := by
  constructor
  · rintro ⟨hsign, hbody⟩
    rw [hbody.splitSign_append hsign]
    exact ⟨rfl, hbody⟩
  · rintro ⟨rfl, hbody⟩
    obtain ⟨sign, negative, body, hsplit, hsign, rfl⟩ := exists_sign cs
    rw [hsplit] at hbody ⊢
    exact .intro hsign hbody

theorem roundsTo_value_iff :
    RoundsTo negative d.value x ↔ d.rank < infinityRank ∧ x = ofRank negative d.rank := by
  constructor
  · rintro ⟨hr, hlt⟩
    rw [d.nearest_rank.unique hr]
    exact ⟨hlt, rfl⟩
  · rintro ⟨hlt, rfl⟩
    exact .intro d.nearest_rank hlt

/-- A finite number is read from a numeral with or without a sign. -/
theorem readFinite?_eq_some_iff_signedSpells :
    readFinite? cs = some x ↔
      ∃ negative q d, SignedSpells cs negative q d ∧ RoundsTo negative d.value x := by
  simp only [readFinite?_eq_some_iff, signedSpells_iff, roundsTo_value_iff]
  constructor
  · rintro ⟨q, d, hspells, hlt, rfl⟩
    exact ⟨_, q, d, ⟨rfl, hspells⟩, hlt, rfl⟩
  · rintro ⟨_, q, d, ⟨rfl, hspells⟩, hlt, rfl⟩
    exact ⟨q, d, hspells, hlt, rfl⟩

/-- A numeral that is not too long is read as the double nearest to the number that it writes. -/
theorem SignedSpells.nearest_rank (h : SignedSpells cs negative q d) (hlen : cs.length ≤ lengthLimit) :
    Nearest q.value d.rank := by
  obtain ⟨-, hbody⟩ := h
  rw [List.length_append] at hlen
  exact hbody.nearest_rank (by omega)

end Numerals

namespace Http

/-! ## Bodies -/

/-- A body is a numeral, blanks around it aside, and its number rounds to this finite one. -/
inductive BodyWrites (body : List UInt8) (x : Float) : Prop where
  | intro {core : List Char} {negative : Bool} {q d : Decimal} :
      Trimmed (Utf8.decode body).toList core → SignedSpells core negative q d →
      RoundsTo negative q.value x → BodyWrites body x

/-- A body is a numeral, blanks around it aside, and it is read as this finite number, its exponent as
far as exponents are read. -/
inductive BodyReads (body : List UInt8) (x : Float) : Prop where
  | intro {core : List Char} {negative : Bool} {q d : Decimal} :
      Trimmed (Utf8.decode body).toList core → SignedSpells core negative q d →
      RoundsTo negative d.value x → BodyReads body x

/-- What is quoted of a text: whole characters from its start, and as many as can be. -/
structure Quotes (text : List Char) (quoted : String) : Prop where
  front : quoted.toList <+: text
  length : quoted.toList.length = min previewLength text.length

section Bodies

variable {body : List UInt8} {x : Float}

theorem quotes_preview (s : String) : Quotes s.toList (preview s) := by
  constructor
  · rw [preview, String.toList_ofList]
    exact List.take_prefix _ _
  · rw [preview, String.toList_ofList, List.length_take]

/-- There is one quotation of a text. -/
theorem Quotes.eq_preview {s quoted : String} (h : Quotes s.toList quoted) : quoted = preview s := by
  have htake := List.prefix_iff_eq_take.mp h.front
  rw [h.length, ← List.take_eq_take_min] at htake
  rw [← String.toList_inj, preview, String.toList_ofList, htake]

theorem bodyReads_iff :
    BodyReads body x ↔ readFinite? (trimBlanks (Utf8.decode body).toList) = some x := by
  rw [readFinite?_eq_some_iff_signedSpells]
  constructor
  · rintro ⟨htrimmed, hspells, hrounds⟩
    rw [trimBlanks_eq_iff.mpr htrimmed]
    exact ⟨_, _, _, hspells, hrounds⟩
  · rintro ⟨negative, q, d, hspells, hrounds⟩
    exact .intro (trimBlanks_eq_iff.mp rfl) hspells hrounds

/-- A body that is not too long is read as it is written. -/
theorem bodyReads_iff_bodyWrites (hlen : (Utf8.decode body).toList.length ≤ lengthLimit) :
    BodyReads body x ↔ BodyWrites body x := by
  constructor
  · rintro ⟨htrimmed, hspells, hrounds⟩
    obtain ⟨hlt, rfl⟩ := roundsTo_value_iff.mp hrounds
    have hnearest := hspells.nearest_rank (htrimmed.length_le.trans hlen)
    exact .intro htrimmed hspells (.intro hnearest hlt)
  · rintro ⟨htrimmed, hspells, @⟨r, hr, hlt⟩⟩
    have hnearest := hspells.nearest_rank (htrimmed.length_le.trans hlen)
    obtain rfl := hnearest.unique hr
    exact .intro htrimmed hspells (roundsTo_value_iff.mpr ⟨hlt, rfl⟩)

end Bodies

/-! ## Replies -/

section Replies

variable (o : Operator) (url : Url)

/-- What comes of a call, from what came of its request.  A response that breaks off is lost whatever
its status, and a status that is no success counts before the body. -/
inductive Verdict : Exchange → Except RemoteFailure Float → Prop where
  | unsentInTime : Verdict (.silent true) (.error ⟨o, .timeout, unsent url⟩)
  | unsent : Verdict (.silent false) (.error ⟨o, .transport, unsent url⟩)
  | brokenInTime {status : Nat} : Verdict (.broken status true) (.error ⟨o, .timeout, undecoded⟩)
  | broken {status : Nat} : Verdict (.broken status false) (.error ⟨o, .transport, undecoded⟩)
  | status {status : Nat} {body : List UInt8} {quoted : String} : status < 200 ∨ 300 ≤ status →
      Quotes (Utf8.decode body).toList quoted →
      Verdict (.complete status body) (.error ⟨o, .status status, quoted⟩)
  | result {status : Nat} {body : List UInt8} {x : Float} : 200 ≤ status → status < 300 →
      BodyReads body x → Verdict (.complete status body) (.ok x)
  | invalidBody {status : Nat} {body : List UInt8} {core : List Char} {quoted : String} :
      200 ≤ status → status < 300 → (¬ ∃ x, BodyReads body x) →
      Trimmed (Utf8.decode body).toList core → Quotes core quoted →
      Verdict (.complete status body)
        (.error ⟨o, .invalidBody, s!"'{quoted}' is not a finite number"⟩)

variable {status : Nat} {body : List UInt8}

theorem isSuccess_iff : isSuccess status = true ↔ 200 ≤ status ∧ status < 300 := by
  simp [isSuccess]

theorem readResult_of_not_success (h : status < 200 ∨ 300 ≤ status) :
    readResult o url (.complete status body) =
      .error ⟨o, .status status, preview (Utf8.decode body)⟩ := by
  have hfailure : isSuccess status = false := by
    rw [Bool.eq_false_iff, Ne, isSuccess_iff]
    omega
  simp only [readResult, hfailure]
  rfl

theorem readResult_of_success (h : 200 ≤ status) (h' : status < 300) :
    readResult o url (.complete status body) =
      match readFinite? (trimBlanks (Utf8.decode body).toList) with
      | some x => .ok x
      | none =>
        .error ⟨o, .invalidBody, s!"'{preview (trim (Utf8.decode body))}' is not a finite number"⟩ := by
  have hsuccess : isSuccess status = true := isSuccess_iff.mpr ⟨h, h'⟩
  cases hread : readFinite? (trimBlanks (Utf8.decode body).toList) <;>
    simp [readResult, hsuccess, hread]

theorem verdict_readResult (exchange : Exchange) : Verdict o url exchange (readResult o url exchange) := by
  cases exchange with
  | silent timedOut => cases timedOut <;> constructor
  | broken status timedOut => cases timedOut <;> constructor
  | complete status body =>
      by_cases hsuccess : 200 ≤ status ∧ status < 300
      · obtain ⟨hlow, hhigh⟩ := hsuccess
        rw [readResult_of_success o url hlow hhigh]
        cases hread : readFinite? (trimBlanks (Utf8.decode body).toList) with
        | some x => exact .result hlow hhigh (bodyReads_iff.mpr hread)
        | none =>
            refine .invalidBody hlow hhigh (fun ⟨x, hx⟩ => ?_) (trimBlanks_eq_iff.mp rfl) ?_
            · rw [bodyReads_iff.mp hx] at hread
              cases hread
            · rw [← toList_trim]
              exact quotes_preview _
      · have hfailure : status < 200 ∨ 300 ≤ status := by omega
        rw [readResult_of_not_success o url hfailure]
        exact .status hfailure (quotes_preview _)

/-- A reply means one thing. -/
theorem readResult_eq_iff {exchange : Exchange} {outcome : Except RemoteFailure Float} :
    readResult o url exchange = outcome ↔ Verdict o url exchange outcome := by
  constructor
  · rintro rfl
    exact verdict_readResult o url exchange
  · intro h
    cases h with
    | unsentInTime => rfl
    | unsent => rfl
    | brokenInTime => rfl
    | broken => rfl
    | status hfailure hquoted =>
        rw [readResult_of_not_success o url hfailure, hquoted.eq_preview]
    | result hlow hhigh hreads =>
        rw [readResult_of_success o url hlow hhigh, bodyReads_iff.mp hreads]
    | @invalidBody status body core quoted hlow hhigh hnone htrimmed hquoted =>
        have hread : readFinite? (trimBlanks (Utf8.decode body).toList) = none :=
          Option.eq_none_iff_forall_ne_some.mpr fun x hx => hnone ⟨x, bodyReads_iff.mpr hx⟩
        rw [← trimBlanks_eq_iff.mpr htrimmed, ← toList_trim] at hquoted
        rw [readResult_of_success o url hlow hhigh, hread, hquoted.eq_preview]

end Replies

/-! ## Calls -/

/-- Each client has the address that is configured for the service of an operator. -/
theorem read_endpoint {config : GatewayConfig} {c : OperationClient}
    (h : Gateway.operationClient config = .ok c) (o : Operator) :
    Url.read (config.operations.forOperator o) = .ok (c.endpoint o) := by
  unfold Gateway.operationClient at h
  cases hsum : Url.read config.operations.sum with
  | error fault => rw [hsum] at h; cases h
  | ok sum =>
  cases hsubtraction : Url.read config.operations.subtraction with
  | error fault => rw [hsum, hsubtraction] at h; cases h
  | ok subtraction =>
  cases hmultiplication : Url.read config.operations.multiplication with
  | error fault => rw [hsum, hsubtraction, hmultiplication] at h; cases h
  | ok multiplication =>
  cases hdivision : Url.read config.operations.division with
  | error fault => rw [hsum, hsubtraction, hmultiplication, hdivision] at h; cases h
  | ok division =>
  rw [hsum, hsubtraction, hmultiplication, hdivision] at h
  obtain rfl := Except.ok.inj h
  cases o
  · exact hsum
  · exact hsubtraction
  · exact hmultiplication
  · exact hdivision

/-- A call sends one request, to the service of its operator, and what comes of it is decided by what came
of the request: the clauses of `Verdict` are all there is, and no two of them disagree.  A body that is
not too long is a result exactly if it is a numeral that rounds to this. -/
theorem reply_decides {τ : Type} (c : OperationClient) (connection : Connection τ) (o : Operator)
    (a b : Float) (t : τ) (log : List (Outgoing × Exchange)) :
    let exchange := (connection.exchange (c.request o a b) t).1
    let there := (c.operations connection.traced).compute o a b (t, log)
    there.2.2 = log ++ [(c.request o a b, exchange)] ∧
    (c.request o a b).url = c.endpoint o ∧
    (∀ config, Gateway.operationClient config = .ok c →
      Url.read (config.operations.forOperator o) = .ok (c.endpoint o)) ∧
    (∀ outcome, there.1.outcome = outcome ↔ Verdict o (c.endpoint o) exchange outcome) ∧
    ∀ status body x, exchange = .complete status body →
      (Utf8.decode body).toList.length ≤ lengthLimit →
      (there.1.outcome = .ok x ↔ 200 ≤ status ∧ status < 300 ∧ BodyWrites body x) := by
  intro exchange there
  refine ⟨rfl, rfl, fun config h => read_endpoint h o, fun outcome => readResult_eq_iff o _, ?_⟩
  intro status body x hexchange hlen
  change readResult o (c.endpoint o) exchange = .ok x ↔ _
  rw [readResult_eq_iff, hexchange, ← bodyReads_iff_bodyWrites hlen]
  constructor
  · rintro ⟨⟩
    exact ⟨‹_›, ‹_›, ‹_›⟩
  · rintro ⟨hlow, hhigh, hreads⟩
    exact .result hlow hhigh hreads

/-- A quotient of three over a gateway that is configured for it. -/
theorem reply_decides_quotient :
    let config : GatewayConfig := ⟨.under "http://[::1]:8080", 1000, {}⟩
    let c : OperationClient := ⟨fun o => ⟨config.operations.forOperator o⟩, 1000⟩
    Gateway.operationClient config = .ok c ∧
    Url.read "http://[::1]:8080/division" = .ok (c.endpoint .divide) ∧
    ((c.operations threes.traced).compute .divide 6.0 2.0 ((), [])).1.outcome = .ok 3.0 ∧
    BodyWrites "3".toUTF8.toList 3.0 := by
  intro config c
  have hconfig : Gateway.operationClient config = .ok c := by
    have hread : ∀ o, Url.read (config.operations.forOperator o) =
        .ok ⟨config.operations.forOperator o⟩ := fun o => by
      cases o <;> decide +kernel
    rw [Gateway.operationClient, show Url.read config.operations.sum = _ from hread .add,
      show Url.read config.operations.subtraction = _ from hread .subtract,
      show Url.read config.operations.multiplication = _ from hread .multiply,
      show Url.read config.operations.division = _ from hread .divide]
    refine congrArg (fun endpoint => Except.ok (OperationClient.mk endpoint 1000)) (funext fun o => ?_)
    cases o <;> rfl
  obtain ⟨-, -, hendpoint, -, hresult⟩ := reply_decides c threes .divide 6.0 2.0 () []
  have hanswer : ((c.operations threes.traced).compute .divide 6.0 2.0 ((), [])).1.outcome = .ok 3.0 := by
    decide +kernel
  exact ⟨hconfig, hendpoint config hconfig, hanswer,
    ((hresult 200 "3".toUTF8.toList 3.0 rfl (by decide +kernel)).mp hanswer).2.2⟩

/-! ## A body that is misread -/

/-- One, with more zeros behind its point than an exponent that is not read to its end makes up for. -/
def farText : List Char := '0' :: '.' :: (zeros 700000 ++ '1' :: 'e' :: digitChars 700001)

theorem signedSpells_zeros (n : Nat) {es : List Char} (hne : es ≠ []) (hes : ∀ c ∈ es, c.isDigit = true) :
    SignedSpells ('0' :: '.' :: (zeros n ++ '1' :: 'e' :: es)) false
      ⟨1, -((n + 1 : Nat) : Int) + digitsValue es⟩ ⟨1, -((n + 1 : Nat) : Int) + exponentValue es⟩ := by
  have hzero : ∀ c ∈ ['0'], c.isDigit = true := by simp
  have hfraction : ∀ c ∈ zeros n ++ ['1'], c.isDigit = true :=
    List.forall_mem_append.mpr ⟨fun _ => isDigit_of_mem_zeros, by simp⟩
  have hmantissa := Mantissa.point (by simp) hzero hfraction
  have hspells := SignedSpells.intro .none
    (.scaled hmantissa (by decide : 'e' ∈ ['e', 'E']) .none hne hes)
  have hvalue : digitsValue (['0'] ++ (zeros n ++ ['1'])) = 1 := by
    have hone : ['0'] = zeros 1 := rfl
    rw [hone, digitsValue_zeros_append, digitsValue_zeros_append]
    rfl
  rw [hvalue, List.length_append, length_zeros] at hspells
  simpa [signed] using hspells

theorem signedSpells_farText : SignedSpells farText false ⟨1, 0⟩ ⟨1, -630001⟩ := by
  have hread : exponentValue (digitChars 700001) = 70000 := by decide
  have h := signedSpells_zeros 700000 (digitChars_ne_nil 700001) fun _ => isDigit_of_mem_digitChars
  rw [digitsValue_digitChars, hread] at h
  exact h

theorem trimmed_farText : Trimmed (Utf8.decode (Utf8.encode farText)).toList farText := by
  have hnumeral : Numeral farText := by
    have hmarks : isNumeral '0' = true ∧ isNumeral '.' = true ∧ isNumeral '1' = true ∧
      isNumeral 'e' = true := by decide
    simp only [farText, Numeral.cons_iff, Numeral.append_iff, Numeral.zeros, Numeral.digitChars, hmarks,
      and_self]
  rw [Utf8.decode, String.toList_ofList, Utf8.decodeChars_encode]
  exact (tight_of_forall fun c hc => isBlank_of_isNumeral (hnumeral c hc)).trimmed

theorem bodyWrites_farText : BodyWrites (Utf8.encode farText) 1.0 := by
  have hrank : Decimal.rank ⟨1, 0⟩ < infinityRank ∧ ofRank false (Decimal.rank ⟨1, 0⟩) = 1.0 := by
    decide +kernel
  exact .intro trimmed_farText signedSpells_farText
    (roundsTo_value_iff.mpr ⟨hrank.1, hrank.2.symm⟩)

/-- The body writes one and is read as zero. -/
theorem bodyReads_farText : BodyReads (Utf8.encode farText) 0.0 := by
  have hrank : Decimal.rank ⟨1, -630001⟩ < infinityRank ∧
      ofRank false (Decimal.rank ⟨1, -630001⟩) = 0.0 := by decide +kernel
  exact .intro trimmed_farText signedSpells_farText
    (roundsTo_value_iff.mpr ⟨hrank.1, hrank.2.symm⟩)

/-- A service that answers with a body. -/
def answering (body : List UInt8) : Connection Unit where
  exchange _ _ := (.complete 200 body, 0.5, ())

theorem outcome_answering (c : OperationClient) (body : List UInt8) (o : Operator) (a b : Float) :
    ((c.operations (answering body)).compute o a b ()).1.outcome =
      readResult o (c.endpoint o) (.complete 200 body) := by
  simp only [OperationClient.operations, answering]

/-- A numeral that rounds to a number need not be a result, and what is quoted of a body need not be at its
start. -/
theorem reply_misread :
    (¬ ∀ (c : OperationClient) (connection : Connection Unit) (o : Operator) (a b x : Float),
      a.isFinite = true → b.isFinite = true →
      (((c.operations connection).compute o a b ()).1.outcome = .ok x ↔
        ∃ status body, (connection.exchange (c.request o a b) ()).1 = .complete status body ∧
          200 ≤ status ∧ status < 300 ∧ BodyWrites body x)) ∧
    (∃ (c : OperationClient) (body : List UInt8),
      ((c.operations (answering body)).compute .add 1.0 2.0 ()).1.outcome =
        .error ⟨.add, .invalidBody, "'x' is not a finite number"⟩ ∧
      ¬ "x".toList <+: (Utf8.decode body).toList) := by
  constructor
  · intro h
    have hone := (h reporting.operations (answering (Utf8.encode farText)) .add 1.0 2.0 1.0 (by decide)
      (by decide)).mpr ⟨200, Utf8.encode farText, rfl, by decide, by decide, bodyWrites_farText⟩
    have hzero := (readResult_eq_iff .add (reporting.operations.endpoint .add)).mpr
      (.result (by decide : 200 ≤ 200) (by decide) bodyReads_farText)
    rw [outcome_answering, hzero] at hone
    have heq : (0.0 : Float) = 1.0 := Except.ok.inj hone
    exact absurd heq (by decide)
  · exact ⟨reporting.operations, " x".toUTF8.toList, by decide +kernel, by decide +kernel⟩

end Http

end ExprGateway
