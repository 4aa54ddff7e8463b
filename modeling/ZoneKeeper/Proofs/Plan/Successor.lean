import ZoneKeeper.Proofs.Plan.Decision
import ZoneKeeper.Proofs.Zone.SerialLine

/-!
# The arithmetic of serials

As numbers, serials go up by one within a day and start anew with the day: the next serial is the
greater one of the number after the last serial and the first number of the day. There is none only
if the last serial is the last one of the day.
-/

namespace ZoneKeeper.Target

open Text

variable {today : Day} {base : Nat} {s : Snapshot}

/-- A stamp of ASCII digits is that of a day exactly if it writes the number of the day. -/
theorem stamp_eq_iff (hday : today.IsDate) (hlen : s.mark.stamp.length = 8)
    (hdigits : ∀ c ∈ s.mark.stamp, isAsciiDigit c = true)
    (hbase : numeral? s.mark.stamp = some base) :
    s.mark.stamp = today.stamp ↔ base = today.number := by
  obtain ⟨htoday, htoday', htoday''⟩ := Day.stamp_spec hday
  constructor
  · intro h
    rw [h, htoday''] at hbase
    exact (Option.some.inj hbase).symm
  · rintro rfl
    exact numeral?_inj (hlen.trans htoday.symm) hdigits htoday' (hbase.trans htoday''.symm)

/-- The next version is what the number of the next serial goes beyond the first one of the day. -/
theorem number_nextVersion (hstamp : s.mark.stamp = today.stamp ↔ base = today.number)
    (hle : base ≤ today.number) (hversion : s.mark.version ≤ 99) :
    100 * today.number + nextVersion (some s) today =
      max (100 * base + s.mark.version + 1) (100 * today.number) := by
  rw [nextVersion_some]
  by_cases heq : base = today.number
  · rw [if_pos (hstamp.mpr heq), heq]
    omega
  · rw [if_neg (mt hstamp.mp heq)]
    omega

/-- There is no next version exactly after the last version of the day. -/
theorem maxVersion_lt_iff (hstamp : s.mark.stamp = today.stamp ↔ base = today.number)
    (hversion : s.mark.version ≤ 99) :
    Serial.maxVersion < nextVersion (some s) today ↔
      base = today.number ∧ s.mark.version = 99 := by
  rw [nextVersion_some]
  unfold Serial.maxVersion
  by_cases heq : base = today.number
  · rw [if_pos (hstamp.mpr heq)]
    omega
  · rw [if_neg (mt hstamp.mp heq)]
    omega

/-- The next serial after one of ASCII digits that is not of a later day. Only after version 99 of
the day itself there is none; otherwise it is ten ASCII digits and, as a number, the greater one of
the number after the last serial and the first number of the day. So it is greater than the last
serial and among the hundred numbers of the day, and every zone file that is made with it is read
back with the day and the version that it is made of. -/
theorem nextSerial_arithmetic {text : Text} {cut : Serial.Cut} (hcut : Serial.cut? text = some cut)
    (hdigits : ∀ c ∈ cut.mark.stamp, isAsciiDigit c = true)
    (hbase : numeral? cut.mark.stamp = some base) (hday : today.IsDate)
    (hle : base ≤ today.number) (path : Path) :
    (nextSerial path (some ⟨path, cut.body, cut.mark⟩) today =
        .error (.exhausted path today.stamp) ↔ base = today.number ∧ cut.mark.version = 99) ∧
      (¬ (base = today.number ∧ cut.mark.version = 99) →
        ∃ (serial : Text) (number version : Nat),
          nextSerial path (some ⟨path, cut.body, cut.mark⟩) today = .ok serial ∧
          serial.length = 10 ∧ (∀ c ∈ serial, isAsciiDigit c = true) ∧
          numeral? serial = some number ∧
          number = max (100 * base + cut.mark.version + 1) (100 * today.number) ∧
          100 * base + cut.mark.version < number ∧ 100 * today.number ≤ number ∧
          number ≤ 100 * today.number + 99 ∧ number = 100 * today.number + version ∧
          ∀ (layout : Layout) (z : Zone) (body : Text), z.OpensOnLines →
            z.render layout none = .ok body →
            ∃ file, z.render layout (some serial) = .ok file ∧
              Serial.cut? file = some ⟨body, ⟨today.stamp, version⟩⟩) := by
  obtain ⟨hlen, hversion⟩ := Serial.mark_of_cut? hcut
  have hstamp := stamp_eq_iff (s := ⟨path, cut.body, cut.mark⟩) hday hlen hdigits hbase
  have hnumber : 100 * today.number + nextVersion (some ⟨path, cut.body, cut.mark⟩) today =
      max (100 * base + cut.mark.version + 1) (100 * today.number) :=
    number_nextVersion hstamp hle hversion
  have hlast := maxVersion_lt_iff hstamp hversion
  rw [nextSerial_eq]
  generalize nextVersion (some ⟨path, cut.body, cut.mark⟩) today = next at hnumber hlast ⊢
  by_cases hnext : next ≤ Serial.maxVersion
  · have hnot : ¬ (base = today.number ∧ cut.mark.version = 99) := by
      rw [← hlast]
      exact Nat.not_lt.mpr hnext
    have hlt : next < 100 := Nat.lt_succ_of_le hnext
    obtain ⟨hten, hascii, hvalue⟩ := Serial.serial_spec hday hlt
    rw [Serial.Mark.number_stamp hday] at hvalue
    rw [if_pos hnext]
    refine ⟨⟨nofun, fun h => absurd h hnot⟩, fun _ => ⟨_, _, next, rfl, hten, hascii, hvalue,
      hnumber, by omega, by omega, by omega, rfl, fun layout z body hopen hbody => ?_⟩⟩
    obtain ⟨file, hfile⟩ := Zone.exists_render hbody (some (today.stamp ++ twoDigits next))
    exact ⟨file, hfile, Zone.cut?_render_version hday hlt hopen hbody hfile⟩
  · have hused := hlast.mp (Nat.not_le.mp hnext)
    rw [if_neg hnext]
    exact ⟨⟨fun _ => hused, fun _ => rfl⟩, fun h => absurd hused h⟩

/-- The last serial of a day is followed by the first one of the next day. -/
theorem nextSerial_arithmetic_sample :
    ∃ (serial : Text) (number version : Nat),
      nextSerial (Path.ofText "db.e".toList)
          (some ⟨Path.ofText "db.e".toList, "\n".toList, ⟨"20261018".toList, 99⟩⟩) ⟨2026, 10, 19⟩ =
        .ok serial ∧
      serial.length = 10 ∧ (∀ c ∈ serial, isAsciiDigit c = true) ∧
      numeral? serial = some number ∧
      number = max (100 * 20261018 + 99 + 1) (100 * 20261019) ∧
      100 * 20261018 + 99 < number ∧ 100 * 20261019 ≤ number ∧ number ≤ 100 * 20261019 + 99 ∧
      number = 100 * 20261019 + version ∧
      ∀ (layout : Layout) (z : Zone) (body : Text), z.OpensOnLines →
        z.render layout none = .ok body →
        ∃ file, z.render layout (some serial) = .ok file ∧
          Serial.cut? file = some ⟨body, ⟨"20261019".toList, version⟩⟩ :=
  have hcut : Serial.cut? "\n\t2026101899\t; Serial\n".toList =
      some ⟨"\n".toList, ⟨"20261018".toList, 99⟩⟩ := by decide
  have hbase : numeral? "20261018".toList = some 20261018 := by decide
  (nextSerial_arithmetic hcut (by decide) hbase Day.isDate_sample (by decide) _).2 (by decide)

end ZoneKeeper.Target
