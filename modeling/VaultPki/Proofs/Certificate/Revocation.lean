import VaultPki.Proofs.Arrival
import VaultPki.Proofs.Calendar.Instant
import VaultPki.Proofs.CommandLine.Connection

/-!
# The time of a revocation

A revocation succeeds exactly if the time that the server gives lies within the calendar. It then
comes to that very instant, and what is printed denotes the date and the time of day that lie so
many seconds from the beginning of 1970.
-/

namespace VaultPki

open Record CommandLine

/-- Whether an answer is a success that gives a time of revocation. -/
structure Revocation.Tells (r : Http.Response) (t : Int64) : Prop where
  success : r.isSuccess = true
  complete : r.complete = true
  data : ∃ e, Answer.envelope Revocation.Data.layout.codec r.body = .ok e ∧ e.data = some ⟨t⟩

namespace Instant

theorem ofSeconds_eq_ok_iff {t : Int} {i : Instant} : ofSeconds t = .ok i ↔ i.seconds = t := by
  unfold ofSeconds
  constructor
  · intro h
    split at h
    · cases h
      rfl
    · cases h
  · rintro rfl
    rw [dif_pos i.reached]

theorem ofSeconds_of_not_reached {t : Int} (h : ¬(-377705116800 ≤ t ∧ t ≤ 253402300799)) :
    ofSeconds t = .error (.timeOutOfRange t) :=
  dif_neg h

theorem exists_ofSeconds_iff {t : Int} :
    (∃ i, ofSeconds t = .ok i) ↔ -377705116800 ≤ t ∧ t ≤ 253402300799 := by
  constructor
  · rintro ⟨i, hi⟩
    rw [← ofSeconds_eq_ok_iff.1 hi]
    exact i.reached
  · intro h
    exact ⟨⟨t, h⟩, ofSeconds_eq_ok_iff.2 rfl⟩

end Instant

namespace Call

variable {c : Client} {net : Http.Network} {mount serial : String} {answer : Except Error String}
  {r : Http.Response} {t : Int64}

theorem revoke_result (hr : (revoke serial).Receives c net mount answer r)
    (ht : Revocation.Tells r t) :
    ((revoke serial).perform c net mount answer).result = Instant.ofSeconds t.toInt := by
  obtain ⟨e, he, hdata⟩ := ht.data
  let p : Payload Instant := ⟨_, Revocation.Data.layout, Revocation.Data.toInstant⟩
  have hexit : ((revoke serial).operation mount).exit =
      .payload (Exit.interpreted p.layout.codec p.interpret) none := rfl
  have hread : (((revoke serial).operation mount).exit.read r).result =
      Instant.ofSeconds t.toInt := by
    rw [hexit, Exit.read_payload_of_success ht.success,
      Payload.readData_of_envelope ht.success ht.complete he, hdata]
    rfl
  rw [perform_result_of_receives hr, hread]
  rfl

theorem execute_revoke {inv : Invocation} {i : Instant} (hcommand : inv.command = .revoke serial)
    (hquiet : inv.quiet = false)
    (hi : ((revoke serial).perform c net mount answer).result = .ok i) :
    (execute (fun call => call.perform c net mount answer) inv).output =
      "Revoked " ++ serial ++ " at " ++ i.toText ++ "\n" := by
  obtain ⟨address, token, mount, serverNamespace, authorityFile, insecure, quiet, command⟩ := inv
  simp only at hcommand hquiet
  subst hcommand hquiet
  show (Execution.ofReport _ _).output = _
  rw [Execution.ofReport, hi]
  rfl

/-- A revocation succeeds exactly if the time in the answer lies in the years from -9999 to 9999,
and fails with an error that names any other time. The instant that it comes to has that time, and
its text, which is also what the command line prints, denotes a valid date and time of day so many
seconds from the beginning of 1970. Different times are shown as different texts. -/
theorem revoke_at_time (hr : (revoke serial).Receives c net mount answer r)
    (ht : Revocation.Tells r t) :
    ((∃ i, ((revoke serial).perform c net mount answer).result = .ok i) ↔
      -377705116800 ≤ t.toInt ∧ t.toInt ≤ 253402300799) ∧
    (¬(-377705116800 ≤ t.toInt ∧ t.toInt ≤ 253402300799) →
      ((revoke serial).perform c net mount answer).result =
        .error (.encoding ("revocation time " ++ t.toInt.repr ++
          " out of range: timestamp was not in range"))) ∧
    (∀ i : Instant, ((revoke serial).perform c net mount answer).result = .ok i →
      i.seconds = t.toInt ∧
      (∃ m : Moment, m.IsDenotedBy i.toText ∧ m.IsValid ∧ m.IsAt t.toInt ∧
        -9999 ≤ m.date.year ∧ m.date.year ≤ 9999) ∧
      ∀ inv : Invocation, inv.command = .revoke serial → inv.quiet = false →
        (execute (fun call => call.perform c net mount answer) inv).output =
          "Revoked " ++ serial ++ " at " ++ i.toText ++ "\n") ∧
    (∀ m m' : Moment, ∀ text, m.IsDenotedBy text → m'.IsDenotedBy text → m = m') ∧
    Function.Injective Instant.toText := by
  have hresult := revoke_result hr ht
  refine ⟨?_, fun h => ?_, fun i hi => ⟨?_, ?_, fun inv hcommand hquiet => ?_⟩,
    fun m m' text => Moment.IsDenotedBy.unique, Instant.toText_injective⟩
  · rw [hresult, Instant.exists_ofSeconds_iff]
  · rw [hresult, Instant.ofSeconds_of_not_reached h, Error.timeOutOfRange]
  · rw [hresult] at hi
    exact Instant.ofSeconds_eq_ok_iff.1 hi
  · rw [hresult] at hi
    have hat : i.moment.IsAt t.toInt := Instant.ofSeconds_eq_ok_iff.1 hi ▸ i.isAt_moment
    have hreached := Instant.exists_ofSeconds_iff.1 ⟨i, hi⟩
    exact ⟨i.moment, i.isDenotedBy_toText, i.isValid_moment, hat,
      (hat.isReached_iff i.isValid_moment).1 hreached⟩
  · exact execute_revoke hcommand hquiet hi

/-- An answer that gives the last second of the second year before the year zero. -/
def revokedLongAgo : Http.Response :=
  ⟨200, Text.Utf8.encode "\x7b\"data\":\x7b\"revocation_time\":-62198755201\x7d\x7d", true⟩

theorem revoke_of_longAgo :
    (revoke "17").Receives Client.standard (fun _ => .answered revokedLongAgo) "pki"
        (.ok "s.token") revokedLongAgo ∧
      Revocation.Tells revokedLongAgo (-62198755201) ∧
      ∃ i : Instant, ((revoke "17").perform Client.standard (fun _ => .answered revokedLongAgo)
          "pki" (.ok "s.token")).result = .ok i ∧
        i.toText = "-0002-12-31 23:59:59.0 +00:00:00" := by
  have hreceives : (revoke "17").Receives Client.standard (fun _ => .answered revokedLongAgo) "pki"
      (.ok "s.token") revokedLongAgo :=
    receives_of_canAsk (Client.standard_canAsk (by decide)) fun _ => rfl
  have htells : Revocation.Tells revokedLongAgo (-62198755201) :=
    ⟨rfl, rfl, ⟨some ⟨-62198755201⟩, none, none⟩, by cbv, rfl⟩
  obtain ⟨hsucceeds, -, hinstant, -⟩ := revoke_at_time hreceives htells
  obtain ⟨i, hi⟩ := hsucceeds.2 (by decide)
  refine ⟨hreceives, htells, i, hi, ?_⟩
  have hseconds : i.seconds = -62198755201 := (hinstant i hi).1
  obtain ⟨seconds, hreached⟩ := i
  subst hseconds
  cbv

end Call

end VaultPki
