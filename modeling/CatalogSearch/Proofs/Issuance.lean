import CatalogSearch.Access
import CatalogSearch.Proofs.Grouping
import CatalogSearch.Proofs.PageCount
import CatalogSearch.Proofs.Signing
import CatalogSearch.Proofs.Visibility

/-!
# Issued tokens

A token is issued for a payload by stamping it with the time of issue and of expiry, in the place of
such claims or at the end, and by signing it. Moments of the calendar are whole numbers that a double
holds, so the expiry is exact (`Lifetime.expiry_int`). With the round trip of signed tokens this
makes whoever presents the token known by what it was issued for, until it expires
(`authenticate_issued`).

Two things stand against it. A secret can be JSON text that stands for other keys, or for none, when
tokens are read; it then signs tokens that it does not accept. And two halves of a surrogate pair
are written like the character that they make (`issued_not_read_back`).
-/

namespace CatalogSearch

/-! ### Lifetimes -/

namespace Binary64

/-- The nearest double of a whole number below 2^53 is the number itself. -/
theorem ratioUnits_mul {d m : Nat} (hd : 0 < d) (hm : m < 2 ^ 53) :
    ratioUnits (d * m) d = m * Place.unitsPerOne := by
  obtain ⟨e, he, hunit⟩ := exists_unitsPerOne_eq
  have hquotient : d * m * Place.unitsPerOne / d = m * Place.unitsPerOne := by
    rw [mul_assoc, Nat.mul_div_cancel_left _ hd]
  have hbelow : m * Place.unitsPerOne < 2 ^ (53 + e) := by
    rw [hunit, pow_add]
    exact Nat.mul_lt_mul_of_pos_right hm (Nat.two_pow_pos e)
  have hshift : ratioShift (d * m) d ≤ e := by
    rw [ratioShift, hquotient]
    rcases Nat.eq_zero_or_pos (m * Place.unitsPerOne) with hzero | hpos
    · rw [hzero, Nat.log2_zero]
      omega
    · have hlog := (Nat.log2_lt hpos.ne').2 hbelow
      omega
  have hdvd : d * 2 ^ ratioShift (d * m) d ∣ d * m * Place.unitsPerOne := by
    rw [mul_assoc, hunit]
    exact Nat.mul_dvd_mul_left d (Dvd.dvd.mul_left (Nat.pow_dvd_pow 2 hshift) m)
  have hexact := mul_roundHalfEven_of_dvd (Nat.mul_pos hd (Nat.two_pow_pos _)) hdvd
  rw [← ratioUnits, mul_assoc] at hexact
  exact Nat.eq_of_mul_eq_mul_left hd hexact

theorem truncate?_ofRatio_mul {d m : Nat} (hd : 0 < d) (hm : m < 2 ^ 53) (hn : d * m < 2 ^ 63)
    (negative : Bool) :
    (ofRatio negative (d * m) d).truncate? = some (Text.signed negative m) := by
  have hunit : (Place.unitsPerOne : Int) ≠ 0 := Int.natCast_ne_zero.2 unitsPerOne_pos.ne'
  rw [truncate?, place_ofRatio hn, ratioUnits_mul hd hm, Text.signed, Int.natCast_mul]
  cases negative with
  | false => exact congrArg some (Int.mul_tdiv_cancel _ hunit)
  | true =>
    rw [if_pos rfl, if_pos rfl]
    dsimp only
    rw [Int.neg_tdiv, Int.mul_tdiv_cancel _ hunit]

end Binary64

namespace Lifetime

/-- A second of the years 1 to 9999. -/
def InCalendar (second : Int) : Prop := firstSecond ≤ second ∧ second ≤ lastSecond

instance (second : Int) : Decidable (InCalendar second) := inferInstanceAs (Decidable (_ ∧ _))

theorem InCalendar.isReadable {second : Int} (h : InCalendar second) : Json.IsReadable second := by
  obtain ⟨hlow, hhigh⟩ := h
  rw [firstSecond] at hlow
  rw [lastSecond] at hhigh
  have hsmall : second.natAbs < 10 ^ 12 := by omega
  have hlength : Binary64.decimalLength second.natAbs ≤ 12 :=
    (Nat.length_toDigits_le_iff (by decide) (by decide)).2 hsmall
  exact hlength.trans (by decide)

/-- No two moments of the calendar are too many days apart. -/
theorem bounded_eq {now d : Int} (hnow : InCalendar now) (hstop : InCalendar (now + d)) :
    bounded (d * microseconds) = .ok (d * microseconds) := by
  obtain ⟨hnow, hnow'⟩ := hnow
  obtain ⟨hstop, hstop'⟩ := hstop
  rw [firstSecond] at hnow hstop
  rw [lastSecond] at hnow' hstop'
  have hdays : (d * microseconds).fdiv day = d / 86400 := by
    rw [Int.fdiv_eq_ediv_of_nonneg _ (by decide), day, microseconds]
    omega
  have hcount : Int.pow 2 31 = 2147483648 := by decide
  have hcounted : (decide (d / 86400 < -2147483648) || decide ((2147483648 : Int) ≤ d / 86400))
      = false := by
    rw [Bool.or_eq_false_iff, decide_eq_false_iff_not, decide_eq_false_iff_not]
    omega
  rw [bounded, hdays, hcount, hcounted, if_neg Bool.false_ne_true, maxDays, if_neg (by omega)]

/-- A moment of the calendar is cut to whole seconds without a loss. -/
theorem truncate?_moment {second : Int} (h : InCalendar second) :
    (Binary64.ofRatio (decide (second * microseconds < 0)) (second * microseconds).natAbs
      microseconds.natAbs).truncate? = some second := by
  obtain ⟨hlow, hhigh⟩ := h
  rw [firstSecond] at hlow
  rw [lastSecond] at hhigh
  have hmicro : microseconds.natAbs = 1000000 := rfl
  have hunits : (second * microseconds).natAbs = 1000000 * second.natAbs := by
    rw [Int.natAbs_mul, hmicro, Nat.mul_comm]
  have hsign : (second * microseconds < 0) = (second < 0) := by
    rw [microseconds]
    apply propext
    omega
  rw [hunits, hmicro, Binary64.truncate?_ofRatio_mul (by decide) (by omega) (by omega)]
  simp only [hsign, Json.signed_natAbs]

/-- A lifetime in whole seconds ends that many seconds from now. -/
theorem expiry_int {now d : Int} (hnow : InCalendar now) (hstop : InCalendar (now + d)) :
    expiry now (.int d) = .ok (now + d) := by
  have hseconds : ofSeconds (.int d) = .ok (d * microseconds) := rfl
  have hmoment : now * microseconds + d * microseconds = (now + d) * microseconds :=
    (Int.add_mul _ _ _).symm
  have hinside : (decide ((now + d) * microseconds < firstSecond * microseconds) ||
      decide ((lastSecond + 1) * microseconds ≤ (now + d) * microseconds)) = false := by
    obtain ⟨hlow, hhigh⟩ := hstop
    rw [Bool.or_eq_false_iff, decide_eq_false_iff_not, decide_eq_false_iff_not, microseconds]
    omega
  rw [expiry, hseconds]
  simp only [bind, Except.bind, bounded_eq hnow hstop, hmoment, hinside, Bool.false_eq_true,
    if_false, truncate?_moment hstop]
  rfl

end Lifetime

/-! ### Rows with a name for each field -/

namespace Row

variable {row other : Row}

theorem nodup_set (h : (row.map (·.1)).Nodup) (column : Text) (v : Value) :
    ((row.set column v).map (·.1)).Nodup := by
  by_cases hmem : column ∈ row.map (·.1)
  · have hany : row.any (·.1 == column) = true := by
      obtain ⟨f, hf, hname⟩ := List.mem_map.1 hmem
      exact List.any_eq_true.2 ⟨f, hf, beq_iff_eq.2 hname⟩
    have hnames : (row.set column v).map (·.1) = row.map (·.1) := by
      rw [set, if_pos hany, List.map_map]
      refine List.map_congr_left fun f _ => ?_
      rw [Function.comp_apply]
      split
      case isTrue hname => exact (beq_iff_eq.1 hname).symm
      case isFalse => rfl
    rw [hnames]
    exact h
  · rw [set_of_not_mem hmem, List.map_append, List.map_cons, List.map_nil]
    refine List.nodup_append.2 ⟨h, List.nodup_singleton _, ?_⟩
    rintro name hname other hother rfl
    rw [List.mem_singleton.1 hother] at hname
    exact hmem hname

theorem get?_eq_none {name : Text} (h : name ∉ row.map (·.1)) : row.get? name = none := by
  rw [get?, List.lookup_eq_none_iff]
  intro f hf
  rw [bne_iff_ne]
  rintro rfl
  exact h (List.mem_map_of_mem hf)

/-- Where no name comes twice, a field is what is found under its name. -/
theorem mem_iff_get? (h : (row.map (·.1)).Nodup) (name : Text) (v : Value) :
    (name, v) ∈ row ↔ row.get? name = some v := by
  induction row with
  | nil => simp [get?]
  | cons f row ih =>
    obtain ⟨hnew, hrest⟩ := List.nodup_cons.1 h
    rw [List.mem_cons, ih hrest, get?_cons]
    by_cases hname : name = f.1
    · obtain ⟨first, w⟩ := f
      cases hname
      rw [if_pos rfl, get?_eq_none hnew]
      constructor
      · rintro (heq | hget)
        · exact congrArg some (congrArg Prod.snd heq).symm
        · cases hget
      · intro heq
        exact .inl (Prod.ext rfl (Option.some.inj heq).symm)
    · have hother : (name, v) ≠ f := fun heq => hname (congrArg Prod.fst heq)
      rw [if_neg hname, or_iff_right hother]

theorem perm_of_get?_eq (h : (row.map (·.1)).Nodup) (h' : (other.map (·.1)).Nodup)
    (hget : ∀ name, row.get? name = other.get? name) : row.Perm other := by
  apply (List.perm_ext_iff_of_nodup h.of_map h'.of_map).2
  rintro ⟨name, v⟩
  rw [mem_iff_get? h, mem_iff_get? h', hget]

end Row

/-! ### What an issued token claims -/

namespace Token

def issuedClaims (s r : Text) (issued expires : Int) : Row :=
  [("sub", .text s), ("role", .text r), ("iat", .int issued), ("exp", .int expires)]

def issuedNames : List Text := ["sub", "role", "iat", "exp"]

theorem nodup_issuedClaims (s r : Text) (issued expires : Int) :
    ((issuedClaims s r issued expires).map (·.1)).Nodup := (by decide : issuedNames.Nodup)

/-- A payload for someone with a role. It may hold a time of issue and of expiry, of any kind. -/
structure IsPayload (s r : Text) (payload : Row) : Prop where
  subject : payload.get? "sub" = some (.text s)
  role : payload.get? "role" = some (.text r)
  names : ∀ name ∈ payload.map (·.1), name ∈ issuedNames
  nodup : (payload.map (·.1)).Nodup

section

variable {s r : Text} {payload : Row} (h : IsPayload s r payload) (issued expires : Int)

include h

theorem IsPayload.get?_stamped (name : Text) :
    (stamped issued expires payload).get? name = (issuedClaims s r issued expires).get? name := by
  rw [stamped, Row.get?_set, Row.get?_set]
  by_cases hname : name ∈ issuedNames
  · simp only [issuedNames, List.mem_cons, List.not_mem_nil, or_false] at hname
    obtain rfl | rfl | rfl | rfl := hname
    · rw [if_neg (by decide), if_neg (by decide), h.subject]
      rfl
    · rw [if_neg (by decide), if_neg (by decide), h.role]
      rfl
    · rw [if_neg (by decide), if_pos rfl]
      rfl
    · rw [if_pos rfl]
      rfl
  · have hnone : payload.get? name = none := Row.get?_eq_none fun hmem => hname (h.names _ hmem)
    have hissued : (issuedClaims s r issued expires).get? name = none := Row.get?_eq_none hname
    simp only [issuedNames, List.mem_cons, List.not_mem_nil, or_false, not_or] at hname
    rw [if_neg hname.2.2.2, if_neg hname.2.2.1, hnone, hissued]

theorem IsPayload.stamped_perm :
    (stamped issued expires payload).Perm (issuedClaims s r issued expires) := by
  apply Row.perm_of_get?_eq
  · exact Row.nodup_set (Row.nodup_set h.nodup _ _) _ _
  · exact nodup_issuedClaims s r issued expires
  · exact h.get?_stamped issued expires

theorem IsPayload.readsBack_stamped (hs : s.Unpaired) (hr : r.Unpaired)
    (hissued : Lifetime.InCalendar issued) (hexpires : Lifetime.InCalendar expires) :
    Json.ReadsBack 1 (.object (stamped issued expires payload)) := by
  apply Json.readsBack_object
  · intro f hf
    have hmem := (h.stamped_perm issued expires).mem_iff.1 hf
    simp only [issuedClaims, List.mem_cons, List.not_mem_nil, or_false] at hmem
    obtain rfl | rfl | rfl | rfl := hmem
    · exact ⟨Text.unpaired_ofString _, Json.readsBack_text hs⟩
    · exact ⟨Text.unpaired_ofString _, Json.readsBack_text hr⟩
    · exact ⟨Text.unpaired_ofString _, Json.readsBack_int hissued.isReadable⟩
    · exact ⟨Text.unpaired_ofString _, Json.readsBack_int hexpires.isReadable⟩
  · exact Row.nodup_set (Row.nodup_set h.nodup _ _) _ _

theorem IsPayload.check_stamped (now : Int) :
    Claims.check now (stamped issued expires payload)
      = if expires < now then .error .expired else .ok () := by
  have hget := h.get?_stamped issued expires
  have hint : ∀ i, Value.toInteger (.int i) = .ok i := fun _ => rfl
  have htext : (Value.text s).isText = true := rfl
  have hiat : Row.get? (stamped issued expires payload) "iat" = some (.int issued) := hget _
  have hexp : Row.get? (stamped issued expires payload) "exp" = some (.int expires) := hget _
  have hsub : Row.get? (stamped issued expires payload) "sub" = some (.text s) := hget _
  have hnbf : Row.get? (stamped issued expires payload) "nbf" = none := hget _
  have haud : Row.get? (stamped issued expires payload) "aud" = none := hget _
  have hjti : Row.get? (stamped issued expires payload) "jti" = none := hget _
  have hhash : Row.get? (stamped issued expires payload) "at_hash" = none := hget _
  simp only [Claims.check, Claims.time?, Claims.checkText, hiat, hexp, hsub, hnbf, haud, hjti,
    hhash, hint, htext, if_true, bind, Except.bind]
  split
  · rfl
  · rfl

end

theorem issue_int {now d : Int} (hnow : Lifetime.InCalendar now)
    (hstop : Lifetime.InCalendar (now + d)) (settings : Settings) (secret : Option String)
    (payload : Row) :
    issue settings secret now (.int d) payload
      = (write (settings.secretOr secret) (stamped now (now + d) payload)).mapError .key := by
  rw [issue, Lifetime.expiry_int hnow hstop]
  rfl

/-- An issued token is read with the secret it was signed with until it expires. -/
theorem exists_read_issued {settings : Settings} {secret : Option String} {key : List UInt8}
    (hkey : Key.ofText (settings.secretOr secret) = .ok key)
    (hitself : Key.StandsForItself (settings.secretOr secret)) {s r : Text} {payload : Row}
    (h : IsPayload s r payload) (hs : s.Unpaired) (hr : r.Unpaired) {now d : Int}
    (hnow : Lifetime.InCalendar now) (hstop : Lifetime.InCalendar (now + d)) :
    ∃ token, issue settings secret now (.int d) payload = .ok token ∧ ∀ t,
      read (settings.secretOr secret) t token
        = if now + d < t then .error (.claims .expired)
          else .ok (stamped now (now + d) payload) := by
  obtain ⟨token, hwrite, hverified⟩ := exists_verified_ok hkey hitself
    (h.readsBack_stamped now (now + d) hs hr hnow hstop) (by decide)
  refine ⟨token, ?_, ?_⟩
  · rw [issue_int hnow hstop, hwrite]
    rfl
  · intro t
    rw [read, hverified]
    simp only [bind, Except.bind, h.check_stamped]
    by_cases hlate : now + d < t
    · rw [if_pos hlate, if_pos hlate]
      rfl
    · rw [if_neg hlate, if_neg hlate]
      rfl

end Token

/-! ### Presenting an issued token -/

theorem requireRole_eq {p : Principal} {r : Text} (h : p.claim "role" = .text r)
    (roles : List String) :
    requireRole roles p
      = if r ∈ roles.map Text.ofString then .ok p else .error (.denied .forbidden) := by
  have hrole : Principal.isOneOf roles (p.claim "role") = true ↔ r ∈ roles.map Text.ofString := by
    rw [h, Principal.isOneOf_iff, List.mem_map]
    constructor
    · rintro ⟨name, hname, heq⟩
      exact ⟨name, hname, (Value.text.inj heq).symm⟩
    · rintro ⟨name, hname, heq⟩
      exact ⟨name, hname, congrArg Value.text heq.symm⟩
  simp only [requireRole, hrole]

/-- Issued tokens are read back faithfully and expire on time. For a secret that stands for
itself and texts without pairs of halves: whatever times the payload carries, whoever presents the
token until it expires is known by the subject and the role of the payload and by the times of issue
and of expiry, and passes where that role is asked for. Later the token is refused. -/
theorem authenticate_issued (settings : Settings) {key : List UInt8}
    (hkey : Key.ofText settings.secret = .ok key) (hitself : Key.StandsForItself settings.secret)
    {s r : Text} (hsubject : s.isEmpty = false) (hs : s.Unpaired) (hr : r.Unpaired) {payload : Row}
    (hpayload : Token.IsPayload s r payload) {now d : Int} (hnow : Lifetime.InCalendar now)
    (hstop : Lifetime.InCalendar (now + d)) :
    ∃ token, Token.issue settings none now (.int d) payload = .ok token ∧
      ∀ t,
        (t ≤ now + d → ∃ p, authenticate settings t (some token) = .ok p ∧
          p.Perm (Token.issuedClaims s r now (now + d)) ∧
          ∀ roles, requireRole roles p
            = if r ∈ roles.map Text.ofString then .ok p else .error (.denied .forbidden)) ∧
        (now + d < t → ∃ denial, authenticate settings t (some token) = .error (.denied denial) ∧
          denial.status = 401) := by
  rw [← settings.secretOr_none] at hkey hitself
  obtain ⟨token, hissue, hread⟩ := Token.exists_read_issued hkey hitself hpayload hs hr hnow hstop
  rw [Settings.secretOr_none] at hread
  refine ⟨token, hissue, ?_⟩
  have hget := hpayload.get?_stamped now (now + d)
  have hsub : Principal.claim (Token.stamped now (now + d) payload) "sub" = .text s := by
    rw [Principal.claim, hget]
    rfl
  have hrole : Principal.claim (Token.stamped now (now + d) payload) "role" = .text r := by
    rw [Principal.claim, hget]
    rfl
  have hknown : (Value.text s).isTruthy = true := by
    rw [Value.isTruthy, hsubject]
    rfl
  intro t
  constructor
  · intro hle
    refine ⟨_, ?_, hpayload.stamped_perm now (now + d), requireRole_eq hrole⟩
    simp only [authenticate, hread, if_neg (Int.not_lt.2 hle), hsub, hknown, if_true]
  · intro hlt
    refine ⟨.invalidToken, ?_, rfl⟩
    simp only [authenticate, hread, if_pos hlt]
    rfl

/-- A subject with a quote, a backslash, a line feed, a letter, a character with two units and half
of one. -/
def oddSubject : Text := ⟨[.char '\x22', .char '\\', .char '\n', .char 'é', .char '😀', .half 0x3d]⟩

/-- A payload that carries an expiry already. -/
def payloadFor (subject : Text) : Row :=
  [("exp", .null), ("role", .text "admin"), ("sub", .text subject)]

theorem isPayload_payloadFor (subject : Text) :
    Token.IsPayload subject "admin" (payloadFor subject) where
  subject := rfl
  role := rfl
  names := (by decide : ∀ name ∈ ([↑"exp", ↑"role", ↑"sub"] : List Text), name ∈ Token.issuedNames)
  nodup := (by decide : ([↑"exp", ↑"role", ↑"sub"] : List Text).Nodup)

/-- A token for an hour is good in its last second, and not in the next one. -/
theorem authenticate_issued_odd :
    ∃ token, Token.issue { secret := "test-secret" } none 1700000000 (.int 3600)
        (payloadFor oddSubject) = .ok token ∧
      (∃ p, authenticate { secret := "test-secret" } 1700003600 (some token) = .ok p ∧
        p.Perm (Token.issuedClaims oddSubject "admin" 1700000000 1700003600) ∧
        requireRole ["regular_user", "admin"] p = .ok p) ∧
      ∃ denial, authenticate { secret := "test-secret" } 1700003601 (some token)
          = .error (.denied denial) ∧ denial.status = 401 := by
  have hkey : Key.ofText "test-secret" = .ok (Text.Utf8.encode "test-secret") :=
    Key.ofText_of_not_isAsymmetric (by decide)
  have hitself : Key.StandsForItself "test-secret" := Key.standsForItself_of_not_json rfl
  have hnow : Lifetime.InCalendar 1700000000 := by decide
  have hstop : Lifetime.InCalendar (1700000000 + 3600) := by decide
  obtain ⟨token, hissue, hpresented⟩ :=
    authenticate_issued { secret := "test-secret" } hkey hitself (by decide) (by decide)
      (Text.unpaired_ofString "admin") (isPayload_payloadFor oddSubject) hnow hstop
  obtain ⟨p, haccess, hclaims, hroles⟩ := (hpresented 1700003600).1 (by decide)
  refine ⟨token, hissue, ⟨p, haccess, hclaims, ?_⟩, (hpresented 1700003601).2 (by decide)⟩
  rw [hroles, if_pos (by decide)]

def pairedSubject : Text := ⟨[.half 0x3d, .half 0x600]⟩

/-- A secret that stands for no keys signs a token that it does not accept, and the token for two
halves is that for the character that they make. -/
theorem issued_not_read_back :
    (∃ token, Token.issue { secret := "[]" } none 1700000000 (.int 3600) (payloadFor "1")
        = .ok token ∧
      ∀ t, authenticate { secret := "[]" } t (some token) = .error (.denied .invalidToken)) ∧
    ∃ token p, Token.issue { secret := "test-secret" } none 1700000000 (.int 3600)
        (payloadFor pairedSubject) = .ok token ∧
      authenticate { secret := "test-secret" } 1700000000 (some token) = .ok p ∧
      p.claim "sub" = .text "😀" ∧ pairedSubject ≠ "😀" := by
  have hnow : Lifetime.InCalendar 1700000000 := by decide
  have hstop : Lifetime.InCalendar (1700000000 + 3600) := by decide
  constructor
  · have hkey : Key.ofText "[]" = .ok (Text.Utf8.encode "[]") :=
      Key.ofText_of_not_isAsymmetric (by decide)
    obtain ⟨token, hwrite, hverified⟩ := Token.exists_verified_eq hkey
      (Token.stamped 1700000000 (1700000000 + 3600) (payloadFor "1"))
    refine ⟨token, ?_, ?_⟩
    · rw [Token.issue_int hnow hstop, Settings.secretOr_none, hwrite]
      rfl
    · intro t
      have hread : Token.read "[]" t token = .error (.problem .forged) := by
        rw [Token.read, hverified]
        rfl
      simp only [authenticate, hread]
      rfl
  · have hkey : Key.ofText (Settings.secretOr { secret := "test-secret" } none)
        = .ok (Text.Utf8.encode "test-secret") := Key.ofText_of_not_isAsymmetric (by decide)
    have hitself : Key.StandsForItself (Settings.secretOr { secret := "test-secret" } none) :=
      Key.standsForItself_of_not_json rfl
    have hsame : Json.write (.object
          (Token.stamped 1700000000 (1700000000 + 3600) (payloadFor pairedSubject)))
        = Json.write (.object
          (Token.stamped 1700000000 (1700000000 + 3600) (payloadFor "😀"))) := by
      decide +kernel
    have htoken : Token.issue { secret := "test-secret" } none 1700000000 (.int 3600)
          (payloadFor pairedSubject)
        = Token.issue { secret := "test-secret" } none 1700000000 (.int 3600)
          (payloadFor "😀") := by
      rw [Token.issue_int hnow hstop, Token.issue_int hnow hstop]
      simp only [Token.write, Token.segment, hsame]
    obtain ⟨token, hissue, hread⟩ := Token.exists_read_issued hkey hitself
      (isPayload_payloadFor "😀") (Text.unpaired_ofString "😀") (Text.unpaired_ofString "admin")
      hnow hstop
    refine ⟨token, Token.stamped 1700000000 (1700000000 + 3600) (payloadFor "😀"),
      htoken.trans hissue, ?_, rfl, by decide⟩
    have hgood := hread 1700000000
    rw [if_neg (by decide), Settings.secretOr_none] at hgood
    simp only [authenticate, hgood]
    rfl

end CatalogSearch
