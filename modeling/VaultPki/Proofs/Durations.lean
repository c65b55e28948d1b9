import VaultPki.Proofs.Answers
import VaultPki.Proofs.Json.Numbers
import VaultPki.Proofs.Record.Durations
import VaultPki.Proofs.Role.Reading
import VaultPki.Proofs.Role.RoundTrip

/-!
# Durations in answers

Roles hold three durations and the settings of a list of revoked certificates one. Servers write
them as texts or as numbers of seconds; what is read of either is a text, which is sent back as it
is.
-/

namespace VaultPki

open Record
open Json (Document Break)
open Text.Ascii (IsDecimal)
open Text.Utf8 (encode)

/-- The members of records in answers that are durations. -/
inductive DurationMember where
  | ttl
  | maxTtl
  | notBefore
  | expiry

namespace DurationMember

/-- The record that a duration stands in. -/
def record : DurationMember → AnswerRecord
  | ttl | maxTtl | notBefore => .storedRole
  | expiry => .revocationListSettings

def name : DurationMember → String
  | ttl => "ttl"
  | maxTtl => "max_ttl"
  | notBefore => "not_before_duration"
  | expiry => "expiry"

def get : (p : DurationMember) → p.record.Data → Option String
  | ttl => StoredRole.ttl
  | maxTtl => StoredRole.maxTtl
  | notBefore => StoredRole.notBefore
  | expiry => RevocationListSettings.expiry

def put : (p : DurationMember) → Option String → p.record.Data → p.record.Data
  | ttl => fun v (r : StoredRole) => { r with ttl := v }
  | maxTtl => fun v (r : StoredRole) => { r with maxTtl := v }
  | notBefore => fun v (r : StoredRole) => { r with notBefore := v }
  | expiry => fun v (r : RevocationListSettings) => { r with expiry := v }

/-- What callers are given for the record, and send. -/
def Model : DurationMember → Type
  | ttl | maxTtl | notBefore => Role
  | expiry => RevocationListSettings

def received : (p : DurationMember) → p.record.Data → Except Error p.Model
  | ttl | maxTtl | notBefore => StoredRole.toRole
  | expiry => .ok

def sent : (p : DurationMember) → p.Model → p.record.Data
  | ttl | maxTtl | notBefore => Role.stored
  | expiry => id

/-- The duration as callers see it. -/
def seen : (p : DurationMember) → p.Model → Option String
  | ttl => Role.ttl
  | maxTtl => Role.maxTtl
  | notBefore => Role.notBefore
  | expiry => RevocationListSettings.expiry

variable (p : DurationMember) {r : p.record.Data} {v : Option String}

@[simp] theorem get_put : p.get (p.put v r) = v := by
  cases p <;> rfl

@[simp] theorem put_put (v' : Option String) : p.put v (p.put v' r) = p.put v r := by
  cases p <;> rfl

@[simp] theorem put_get : p.put (p.get r) r = r := by
  cases p <;> rfl

theorem get_sent (o : p.Model) : p.get (p.sent o) = p.seen o := by
  cases p <;> rfl

theorem received_sent (o : p.Model) : p.received (p.sent o) = .ok o := by
  cases p with
  | expiry => rfl
  | _ => exact StoredRole.toRole_stored o

theorem seen_of_received {o : p.Model} (h : p.received r = .ok o) : p.seen o = p.get r := by
  cases p with
  | ttl => exact (StoredRole.toRole_eq_ok_iff.1 h).ttl
  | maxTtl => exact (StoredRole.toRole_eq_ok_iff.1 h).maxTtl
  | notBefore => exact (StoredRole.toRole_eq_ok_iff.1 h).notBefore
  | expiry => rw [← Except.ok.inj h]; rfl

/-- A record is what it is without the duration, and the duration. -/
theorem reads_iff {ms : Members} :
    p.record.Reads ms r ↔
      MayHold ms p.name IsDuration (p.get r) ∧
        p.record.Reads (besides p.name ms) (p.put none r) := by
  -- The members of other names are the same; the duration's own must come to the front.
  cases p with
  | ttl =>
    simp [record, AnswerRecord.Reads, name, get, put, mayHold_besides, mayHold_besides_self]
  | maxTtl =>
    simp only [record, AnswerRecord.Reads, name, get, put, mayHold_besides, mayHold_besides_self,
      ne_eq, String.reduceEq, not_false_eq_true, true_and]
    exact and_left_comm
  | notBefore =>
    refine Iff.trans ?_ and_comm
    simp [record, AnswerRecord.Reads, name, get, put, mayHold_besides, mayHold_besides_self,
      and_assoc]
  | expiry =>
    simp [record, AnswerRecord.Reads, name, get, put, mayHold_besides, mayHold_besides_self]

theorem isThorough : ∀ f ∈ p.record.layout.own, f.codec.IsThorough := by
  cases p <;>
    simp [record, AnswerRecord.layout, StoredRole.layout, StoredRole.fields,
      RevocationListSettings.layout, Layout.plain, Field.duration, Field.optionalLast]

theorem absent_ne_none : ∀ f ∈ p.record.layout.own, f.absent ≠ none := by
  cases p <;>
    simp [record, AnswerRecord.layout, StoredRole.layout, StoredRole.fields,
      RevocationListSettings.layout, Layout.plain, Field.duration, Field.optionalLast]

theorem field_mem : Field.duration p.name ∈ p.record.layout.own := by
  cases p <;>
    simp [record, name, AnswerRecord.layout, StoredRole.layout, StoredRole.fields,
      RevocationListSettings.layout, Layout.plain]

variable {before after : Members} {x : Document} {stop : Option Break} {levels : Nat}

theorem read_eq_ok_iff (hbefore : ∀ m ∈ before, isNamed p.name m = false)
    (hafter : ∀ m ∈ after, isNamed p.name m = false) :
    p.record.layout.read (levels + 2) (.object (before ++ (.ok p.name, x) :: after) stop) =
        .ok r ↔
      ∃ r₀ v, p.record.layout.read (levels + 2) (.object (before ++ after) stop) = .ok r₀ ∧
        Surfaces x v ∧ r = p.put v r₀ := by
  have hflat := p.record.isFlat
  have hone : named p.name (before ++ (.ok p.name, x) :: after) = [x] :=
    named_eq_singleton_iff.2 ⟨before, _, after, rfl, by simp, rfl, hbefore, hafter⟩
  have hothers : besides p.name (before ++ (.ok p.name, x) :: after) = before ++ after :=
    besides_of_one hbefore hafter
  constructor
  · intro hread
    obtain ⟨rfl, hwhole⟩ := hflat.areWhole_of_read p.isThorough hread
    have hreads := p.record.takes_iff.1 ((hflat.read_object_iff hwhole).1 hread)
    obtain ⟨hx, hrest⟩ := p.reads_iff.1 hreads
    rw [mayHold_of_one hone, ← surfaces_iff] at hx
    have hwhole := hwhole.besides p.name
    rw [hothers] at hrest hwhole
    refine ⟨p.put none r, p.get r, ?_, hx, by simp⟩
    exact (hflat.read_object_iff hwhole).2 (p.record.takes_iff.2 hrest)
  · rintro ⟨r₀, v, hread, hx, rfl⟩
    obtain ⟨rfl, hwhole⟩ := hflat.areWhole_of_read p.isThorough hread
    have hreads := p.record.takes_iff.1 ((hflat.read_object_iff hwhole).1 hread)
    obtain ⟨hbefore', hafter'⟩ := List.forall_mem_append.1 hwhole
    have hwhole : Members.AreWhole (before ++ (.ok p.name, x) :: after) :=
      List.forall_mem_append.2
        ⟨hbefore', List.forall_mem_cons.2 ⟨⟨⟨p.name, rfl⟩, hx.skim⟩, hafter'⟩⟩
    rw [hflat.read_object_iff hwhole, p.record.takes_iff, p.reads_iff, hothers, get_put, put_put,
      mayHold_of_one hone, ← surfaces_iff]
    have hothers₀ : besides p.name (before ++ after) = before ++ after :=
      besides_eq_self (List.forall_mem_append.2 ⟨hbefore, hafter⟩)
    have hrest := (p.reads_iff.1 hreads).2
    rw [hothers₀] at hrest
    exact ⟨hx, hrest⟩

theorem read_of_refused (hbefore : ∀ m ∈ before, isNamed p.name m = false)
    (hx : ∀ v, ¬Surfaces x v) :
    p.record.layout.read (levels + 1) (.object (before ++ (.ok p.name, x) :: after) stop) =
      p.record.layout.read (levels + 1) (.object before none) >>= fun _ =>
        .error (fault levels x) :=
  p.record.isFlat.read_of_refused p.absent_ne_none p.field_mem
    (Codec.duration_read_of_not_surfaces hx) hbefore after stop

end DurationMember

/-- What a member of a duration's name does to its record, at the top of a text or with any number
of levels left. The record is read exactly if it is without the member and the value is a text,
`null` or an integer of 64 bits; the duration is then what the value is surfaced as, and all else is
the same. Any other value makes the record fail, unless a member in front of it does: for its kind,
if it can be read in full. A number that is kept as it is written is the decimal text of no integer
that 64 bits can hold. Callers see what was read, and it is read again when they send it back. -/
theorem durations_are_surfaced (p : DurationMember) {bytes : List UInt8} {before after : Members}
    {x : Document} {stop : Option Break} {complete : Bool}
    (h : Json.Text.ofBytes bytes =
      ⟨.object (before ++ (.ok p.name, x) :: after) stop, complete⟩)
    (hone : ∀ m ∈ before ++ after, isNamed p.name m = false) :
    p.record.layout.decode bytes =
      (p.record.layout.read 127 (.object (before ++ (.ok p.name, x) :: after) stop) >>= fun r =>
        if complete then .ok r else .error (.defect .malformed)) ∧
    (∀ levels r,
      p.record.layout.read (levels + 2) (.object (before ++ (.ok p.name, x) :: after) stop) =
          .ok r ↔
        ∃ r₀ v, p.record.layout.read (levels + 2) (.object (before ++ after) stop) = .ok r₀ ∧
          Surfaces x v ∧ r = p.put v r₀) ∧
    ((∃ v, Surfaces x v) ↔
      x = .null ∨ (∃ s, x = .text (.ok s)) ∨
        ∃ n, x = .integer n ∧ -2 ^ 63 ≤ n ∧ n ≤ 2 ^ 63 - 1) ∧
    ((∀ v, ¬Surfaces x v) → ∀ levels,
      p.record.layout.read (levels + 1) (.object (before ++ (.ok p.name, x) :: after) stop) =
        p.record.layout.read (levels + 1) (.object before none) >>= fun _ =>
          .error (fault levels x)) ∧
    (∀ levels, fault levels x = .mismatch ↔ x.IsReadable levels) ∧
    (∀ literal finite i, x = .real literal finite → IsDecimal literal i →
      i < -2 ^ 63 ∨ 2 ^ 64 ≤ i) ∧
    (∀ m n v, Surfaces (.integer m) v → Surfaces (.integer n) v → m = n) ∧
    ∀ r o, p.received r = .ok o →
      p.seen o = p.get r ∧ p.get (p.sent o) = p.get r ∧ p.received (p.sent o) = .ok o ∧
        p.record.layout.decode (encode (p.record.layout.write (p.sent o)).compact) =
          .ok (p.sent o) := by
  obtain ⟨hbefore, hafter⟩ := List.forall_mem_append.1 hone
  refine ⟨Layout.decode_of_ofBytes h, fun levels r => p.read_eq_ok_iff hbefore hafter,
    exists_surfaces_iff, fun hx levels => p.read_of_refused hbefore hx,
    fun levels => fault_eq_mismatch_iff, ?_, fun m n v => Surfaces.integer_inj, fun r o ho => ?_⟩
  · rintro literal finite i rfl hi
    have hread := Json.Reader.isRead_ofBytes bytes
    rw [h] at hread
    have hx := hread.of_mem_members (List.mem_append_right before List.mem_cons_self)
    by_contra hrange
    obtain ⟨hmin, hmax⟩ := not_or.1 hrange
    exact hx.not_isDecimal ⟨Int.not_lt.1 hmin, Int.not_le.1 hmax⟩ hi
  · have hseen := p.seen_of_received ho
    refine ⟨hseen, (p.get_sent o).trans hseen, p.received_sent o, ?_⟩
    exact p.record.layout_isFaithful.codec_isSolid.decode_write (by decide) (p.sent o)

/-- The least integer of 64 bits, between a flag and a member of another name. -/
theorem expiry_of_least_integer :
    RevocationListSettings.layout.decode
        (encode "\x7b\"disable\":true,\"expiry\":-9223372036854775808,\"build\":[]\x7d") =
      .ok ⟨some "-9223372036854775808", some true⟩ := by
  let before : Members := [(.ok "disable", .bool true)]
  let after : Members := [(.ok "build", .list [] none)]
  have htext : Json.Text.ofBytes
      (encode "\x7b\"disable\":true,\"expiry\":-9223372036854775808,\"build\":[]\x7d") =
        ⟨.object (before ++ (.ok DurationMember.expiry.name, .integer (-9223372036854775808)) ::
          after) none, true⟩ := by
    cbv
  have hone : ∀ m ∈ before ++ after, isNamed DurationMember.expiry.name m = false := by
    simp [before, after, DurationMember.name]
  have hrest : RevocationListSettings.layout.read 127 (.object (before ++ after) none) =
      .ok ⟨none, some true⟩ := by
    cbv
  have hexpiry : Surfaces (.integer (-9223372036854775808)) (some "-9223372036854775808") :=
    .integer (by decide) (by decide) (Text.Ascii.isDecimal_iff.2 rfl)
  obtain ⟨hdecode, hread, -⟩ := durations_are_surfaced .expiry htext hone
  have hsettings := (hread 125 ⟨some "-9223372036854775808", some true⟩).2
    ⟨_, _, hrest, hexpiry, rfl⟩
  refine hdecode.trans ?_
  rw [hsettings]
  rfl

/-- A zero with a minus sign is no integer, though it denotes one, and a number beyond those of
double precision is a defect. A member that is met twice is refused, whatever its values are. -/
theorem ttl_of_negative_zero :
    Text.Ascii.signedDecimal? "-0".toList = some 0 ∧
    StoredRole.layout.decode (encode "\x7b\"ttl\":-0\x7d") = .error .mismatch ∧
    RevocationListSettings.layout.decode (encode "\x7b\"expiry\":1e400\x7d") =
      .error (.defect .malformed) ∧
    StoredRole.layout.decode (encode "\x7b\"ttl\":5,\"ttl\":5\x7d") = .error .mismatch := by
  refine ⟨?_, ?_, ?_, ?_⟩
  · decide
  · decide +kernel
  · decide +kernel
  · cbv

end VaultPki
