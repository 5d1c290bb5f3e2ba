import GoOidc.ClientAuthn
import GoOidc.Time

/-!
`areClaimsValid` (`internal/clientutil/authn.go`) checks a verified assertion's claims: `exp` and
`iat` present, `int(exp.Time().Sub(iat.Time()).Seconds())` within `AssertionLifetimeSecs`, and
go-jose's `ValidateWithLeeway` with no leeway. At every clock reading from the Unix epoch on, an
accepted assertion was issued no later than now, expires no earlier and lives at most the
lifetime (`accepted_assertion_within_lifetime`).
-/

namespace GoOidc.ClientAssertion

open ClientAuthn (invalidClient)

structure Claims where
  issuer : String
  subject : String
  audience : List String
  expiry : Option NumericDate
  notBefore : Option NumericDate
  issuedAt : Option NumericDate

/-- `jwt.Expected` as `areClaimsValid` fills it: no `Time`, so validation runs at `time.Now()`. -/
structure Expected where
  issuer : String
  subject : String
  anyAudience : List String

inductive ValidationError where
  | invalidIssuer
  | invalidSubject
  | invalidAudience
  | notValidYet
  | expired
  | issuedInTheFuture
  deriving DecidableEq, Repr

/-- go-jose's `Claims.ValidateWithLeeway` for such an `Expected`, at the clock's reading `now`. -/
def validateWithLeeway (c : Claims) (e : Expected) (now : Time) (leeway : Duration) :
    Except ValidationError Unit :=
  if e.issuer ≠ "" ∧ e.issuer ≠ c.issuer then .error .invalidIssuer
  else if e.subject ≠ "" ∧ e.subject ≠ c.subject then .error .invalidSubject
  else if e.anyAudience ≠ [] ∧ ¬ e.anyAudience.any (fun v => decide (v ∈ c.audience)) then
    .error .invalidAudience
  else if c.notBefore.any (fun nbf => (now.add leeway).before nbf.time) then .error .notValidYet
  else if c.expiry.any (fun exp => (now.add leeway.neg).after exp.time) then .error .expired
  else if c.issuedAt.any (fun iat => (now.add leeway).before iat.time) then .error .issuedInTheFuture
  else .ok ()

structure AssertionContext where
  assertionLifetimeSecs : Int
  audiences : List String
  now : Time

def noLeeway : Duration := ⟨0, by decide⟩

def areClaimsValid (ctx : AssertionContext) (client : Client) (claims : Claims) : Except OAuthError Unit :=
  match claims.expiry with
  | none => .error (invalidClient "claim 'exp' is missing in the client assertion")
  | some exp =>
    match claims.issuedAt with
    | none => .error (invalidClient "claim 'iat' is missing in the client assertion")
    | some iat =>
      let secsToExpiry := (exp.time.sub iat.time).intSeconds
      if secsToExpiry > ctx.assertionLifetimeSecs then
        .error (invalidClient "the assertion has a life time more than allowed")
      else
        match validateWithLeeway claims ⟨client.id, client.id, ctx.audiences⟩ ctx.now noLeeway with
        | .error _ => .error (invalidClient "invalid assertion")
        | .ok () => .ok ()

/-! ### What an accepted assertion satisfies -/

theorem add_noLeeway (t : Time) : t.add noLeeway = t := Time.add_zero t _

theorem noLeeway_neg : noLeeway.neg = noLeeway := rfl

theorem validateWithLeeway_noLeeway_eq_ok {c : Claims} {e : Expected} {now : Time} :
    validateWithLeeway c e now noLeeway = .ok () ↔
      (e.issuer ≠ "" → e.issuer = c.issuer) ∧ (e.subject ≠ "" → e.subject = c.subject) ∧
      (e.anyAudience ≠ [] → ∃ v ∈ e.anyAudience, v ∈ c.audience) ∧
      (∀ nbf ∈ c.notBefore, now.before nbf.time = false) ∧
      (∀ exp ∈ c.expiry, now.after exp.time = false) ∧
      (∀ iat ∈ c.issuedAt, now.before iat.time = false) := by
  simp [validateWithLeeway, noLeeway_neg, add_noLeeway, option_any_eq_false]

theorem areClaimsValid_eq_ok {ctx : AssertionContext} {client : Client} {claims : Claims} :
    areClaimsValid ctx client claims = .ok () ↔
      ∃ exp iat, claims.expiry = some exp ∧ claims.issuedAt = some iat ∧
        (exp.time.sub iat.time).intSeconds ≤ ctx.assertionLifetimeSecs ∧
        validateWithLeeway claims ⟨client.id, client.id, ctx.audiences⟩ ctx.now noLeeway = .ok () := by
  unfold areClaimsValid
  rcases claims.expiry with _ | exp
  · simp
  rcases claims.issuedAt with _ | iat
  · simp
  dsimp only
  split_ifs with long
  · simp [Int.not_le.mpr long]
  · split <;> simp_all [Int.not_lt]

theorem lifetime_bounds {exp iat : NumericDate} {now : Time} {lifetime : Int}
    (belowMax : lifetime < 9223372036)
    (late : lifetime - 9223372036854775808 ≤ now.sec - unixToInternal)
    (short : (exp.time.sub iat.time).intSeconds ≤ lifetime) (notExpired : now.after exp.time = false)
    (issued : now.before iat.time = false) :
    iat.secs ≤ now.sec - unixToInternal ∧ now.sec - unixToInternal ≤ exp.secs ∧
      exp.secs - iat.secs ≤ lifetime := by
  have upper := sec_le_of_after_eq_false notExpired
  rw [before_of_zero_nsec (NumericDate.time_nsec iat), decide_eq_false_iff_not, Int.not_lt] at issued
  rw [intSeconds_sub_of_zero_nsec (NumericDate.time_nsec exp) (NumericDate.time_nsec iat)] at short
  have e := exp.isInt64
  have i := iat.isInt64
  have n := now.secIsInt64
  simp only [NumericDate.time_sec, unixToInternal_eq] at *
  unfold IsInt64 wrap second at *
  split_ifs at short <;> omega

/-- At a clock reading from the Unix epoch on, as `time.Now()` gives. -/
theorem accepted_assertion_within_lifetime (ctx : AssertionContext) (client : Client) (claims : Claims)
    (belowMax : ctx.assertionLifetimeSecs < 9223372036) (clock : 0 ≤ ctx.now.sec - unixToInternal)
    (accepted : areClaimsValid ctx client claims = .ok ()) :
    ∃ exp iat : NumericDate, claims.expiry = some exp ∧ claims.issuedAt = some iat ∧
      iat.secs ≤ ctx.now.sec - unixToInternal ∧ ctx.now.sec - unixToInternal ≤ exp.secs ∧
      exp.secs - iat.secs ≤ ctx.assertionLifetimeSecs ∧
      exp.secs - (ctx.now.sec - unixToInternal) ≤ ctx.assertionLifetimeSecs := by
  obtain ⟨exp, iat, hexp, hiat, short, valid⟩ := areClaimsValid_eq_ok.mp accepted
  obtain ⟨-, -, -, -, notExpired, issued⟩ := validateWithLeeway_noLeeway_eq_ok.mp valid
  obtain ⟨lower, upper, within⟩ :=
    lifetime_bounds belowMax (by omega) short (notExpired exp hexp) (issued iat hiat)
  exact ⟨exp, iat, hexp, hiat, lower, upper, within, by omega⟩

def assertingClient : Client := { ClientAuthn.publicClient with authnMethod := clientAuthnPrivateKeyJWT }

def tenMinuteClaims : Claims :=
  ⟨"c1", "c1", ["https://op.example/token"], some ⟨1700000600, by decide⟩, none, some ⟨1700000000, by decide⟩⟩

def tenMinuteContext : AssertionContext := ⟨600, ["https://op.example/token"], unix 1700000300⟩

theorem tenMinuteAssertion_within_lifetime :
    areClaimsValid tenMinuteContext assertingClient tenMinuteClaims = .ok () ∧
      ∃ exp iat : NumericDate, tenMinuteClaims.expiry = some exp ∧ tenMinuteClaims.issuedAt = some iat ∧
        iat.secs ≤ tenMinuteContext.now.sec - unixToInternal ∧
        tenMinuteContext.now.sec - unixToInternal ≤ exp.secs ∧
        exp.secs - iat.secs ≤ tenMinuteContext.assertionLifetimeSecs ∧
        exp.secs - (tenMinuteContext.now.sec - unixToInternal) ≤ tenMinuteContext.assertionLifetimeSecs :=
  ⟨rfl, accepted_assertion_within_lifetime tenMinuteContext assertingClient tenMinuteClaims (by decide)
    (by decide) rfl⟩

/-! ### An issue date that wraps, at a clock `time.Now()` never reads -/

def minDate : NumericDate := ⟨-9223372036854775808, by decide⟩

def maxDate : NumericDate := ⟨9223372036854775807, by decide⟩

def wrappedClaims : Claims := ⟨"c1", "c1", ["https://op.example/token"], some minDate, none, some maxDate⟩

def wrappedClockContext : AssertionContext := ⟨1, ["https://op.example/token"], unix minDate.secs⟩

/-- `NumericDate.Time()` adds the seconds from year 1 in `int64` arithmetic, so the issue date
    wraps to one second before the expiry and passes at a clock `time.Now()` never reads. -/
theorem wrappedIssuedAt_accepted :
    areClaimsValid wrappedClockContext assertingClient wrappedClaims = .ok () ∧
      wrappedClockContext.now.sec - unixToInternal < maxDate.secs :=
  ⟨rfl, by decide⟩

end GoOidc.ClientAssertion
