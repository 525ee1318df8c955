import ParticipantDirectory.Calendar.Date.Reader

/-!
# Reading written dates

A date is written in ten ASCII characters, which are the bytes of the text (`bytes_of_ascii`). Year, month and day
stand there as padded numbers, whose digits are those of their quotients by ten (`padded_succ`), so that reading two
digits at a time finds them again (`takeDay_chars`): what is read is the date that was written
(`Calendar.Date.ofString_render`).
-/

namespace ParticipantDirectory

/-- The bytes of an ASCII text are its characters. -/
theorem Text.bytes_of_ascii {s : String} (h : ∀ c ∈ s.toList, c.toNat < 0x80) :
    (s.toUTF8.data.toList.map fun b => Char.ofNat b.toNat) = s.toList := by
  have hbytes : s.toUTF8.data.toList = s.toList.flatMap String.utf8EncodeChar := by
    rw [String.toUTF8_eq_toByteArray, ← String.utf8Encode_toList, List.utf8Encode, List.data_toByteArray]
  rw [hbytes]
  generalize s.toList = chars at h ⊢
  induction chars with
  | nil => rfl
  | cons c rest ih =>
    have hc : c.toNat < 0x80 := h c (List.mem_cons_self ..)
    have hchar : String.utf8EncodeChar c = [UInt8.ofNat c.toNat] := by
      rw [String.utf8EncodeChar]
      exact if_pos (Nat.le_of_lt_succ hc)
    have hback : Char.ofNat (UInt8.ofNat c.toNat).toNat = c := by
      rw [UInt8.toNat_ofNat_of_lt' (by simp [UInt8.size]; omega), Char.ofNat_toNat]
    rw [List.flatMap_cons, hchar, List.map_append, ih fun d hd => h d (List.mem_cons_of_mem _ hd), List.map_singleton,
      hback, List.singleton_append]

namespace Decimal

theorem isDigit_digitChar : ∀ n < 10, (Nat.digitChar n).isDigit = true := by decide

theorem value_digitChar : ∀ n < 10, (Nat.digitChar n).toNat - '0'.toNat = n := by decide

theorem digitChar_ascii : ∀ n < 10, (Nat.digitChar n).toNat < 0x80 := by decide

theorem padded_one {n : Nat} (h : n < 10) : (padded 1 n).toList = [Nat.digitChar n] := by
  rw [padded, String.toList_ofList, Nat.toList_repr, Nat.toDigits_of_lt_base h]
  rfl

/-- One digit more is the last digit after the others. -/
theorem padded_succ {width : Nat} (hw : 0 < width) (n : Nat) :
    (padded (width + 1) n).toList = (padded width (n / 10)).toList ++ [Nat.digitChar (n % 10)] := by
  simp only [padded, String.toList_ofList, Nat.toList_repr, padLeft]
  by_cases h : n < 10
  · rw [Nat.div_eq_of_lt h, Nat.mod_eq_of_lt h, Nat.toDigits_of_lt_base h, Nat.toDigits_zero]
    obtain ⟨k, rfl⟩ : ∃ k, width = k + 1 := ⟨width - 1, by omega⟩
    rw [List.length_singleton, Nat.add_sub_cancel, List.length_singleton, Nat.add_sub_cancel, ← List.replicate_succ']
  · rw [Nat.toDigits_of_base_le (by decide) (Nat.not_lt.1 h), List.length_append, List.length_singleton,
      Nat.add_sub_add_right, List.append_assoc]

theorem padded_two {n : Nat} (h : n < 100) :
    (padded 2 n).toList = [Nat.digitChar (n / 10), Nat.digitChar (n % 10)] := by
  rw [padded_succ (by decide), padded_one (by omega)]
  rfl

theorem padded_four {n : Nat} (h : n < 10000) : (padded 4 n).toList =
    [Nat.digitChar (n / 10 / 10 / 10), Nat.digitChar (n / 10 / 10 % 10), Nat.digitChar (n / 10 % 10),
      Nat.digitChar (n % 10)] := by
  rw [padded_succ (by decide), padded_succ (by decide), padded_two (by omega)]
  rfl

end Decimal

namespace Calendar

theorem digitOr_digitChar {n : Nat} (h : n < 10) (fault : DateFault) : digitOr fault (Nat.digitChar n) = .ok n := by
  rw [digitOr, if_pos (Decimal.isDigit_digitChar n h), Decimal.value_digitChar n h]

theorem takeTwo_digits {a b : Nat} (ha : a < 10) (hb : b < 10) (fault : DateFault) (rest : List Char) :
    takeTwo fault (Nat.digitChar a :: Nat.digitChar b :: rest) = .ok (10 * a + b, rest) := by
  rw [takeTwo, digitOr_digitChar ha, digitOr_digitChar hb]
  rfl

theorem daysIn_le (year month : Nat) : daysIn year month ≤ 31 := by
  unfold daysIn
  split
  case h_12 => split <;> decide
  all_goals decide

theorem daysIn_beyond {month : Nat} (h : 13 ≤ month) (year : Nat) : daysIn year month = 0 := by
  unfold daysIn
  split
  all_goals first | rfl | omega

theorem month_of_isDate {year month day : Nat} (h : IsDate year month day) : month < 13 := by
  obtain ⟨-, -, hd, hm⟩ := h
  refine Nat.lt_of_not_le fun h13 => ?_
  rw [daysIn_beyond h13] at hm
  omega

/-- Two digits at a time, with hyphens between year, month and day. -/
theorem takeDay_digits {a b c d e f g h : Nat} (hc : a < 10 ∧ b < 10) (hy : c < 10 ∧ d < 10) (hm : e < 10 ∧ f < 10)
    (hd : g < 10 ∧ h < 10) (hmonth : daysIn (100 * (10 * a + b) + (10 * c + d)) (10 * e + f) ≠ 0)
    (hday : ¬(10 * g + h = 0 ∨ daysIn (100 * (10 * a + b) + (10 * c + d)) (10 * e + f) < 10 * g + h)) :
    takeDay [Nat.digitChar a, Nat.digitChar b, Nat.digitChar c, Nat.digitChar d, '-', Nat.digitChar e, Nat.digitChar f,
      '-', Nat.digitChar g, Nat.digitChar h] =
      .ok ((100 * (10 * a + b) + (10 * c + d), 10 * e + f, 10 * g + h), []) := by
  have hok : ∀ {α β : Type} (x : α) (k : α → Except DateFault β), (Except.ok x >>= k) = k x := fun _ _ => rfl
  have hmark : ∀ rest, takeMark .dateSeparator '-' ('-' :: rest) = .ok rest := fun _ => rfl
  have hlength : ¬[Nat.digitChar a, Nat.digitChar b, Nat.digitChar c, Nat.digitChar d, '-', Nat.digitChar e,
      Nat.digitChar f, '-', Nat.digitChar g, Nat.digitChar h].length < 10 := by simp
  simp only [takeDay, if_neg hlength, takeTwo_digits hc.1 hc.2, takeTwo_digits hy.1 hy.2, takeTwo_digits hm.1 hm.2,
    takeTwo_digits hd.1 hd.2, hok, hmark, if_neg hmonth, if_neg hday]
  rfl

/-- Year, month and day have at most four, two and two digits. -/
theorem Date.bounds (d : Date) : d.year < 10000 ∧ d.month < 100 ∧ d.day < 100 := by
  obtain ⟨-, hy, -, hd⟩ := d.isDate
  have hm : d.month < 13 := month_of_isDate d.isDate
  have hdays := daysIn_le d.year d.month
  omega

/-- The characters of a written date. -/
theorem Date.toList_render (d : Date) : d.render.toList =
    [Nat.digitChar (d.year / 10 / 10 / 10), Nat.digitChar (d.year / 10 / 10 % 10), Nat.digitChar (d.year / 10 % 10),
      Nat.digitChar (d.year % 10), '-', Nat.digitChar (d.month / 10), Nat.digitChar (d.month % 10), '-',
      Nat.digitChar (d.day / 10), Nat.digitChar (d.day % 10)] := by
  obtain ⟨hy, hm, hd⟩ := d.bounds
  simp [render, Decimal.padded_four hy, Decimal.padded_two hm, Decimal.padded_two hd]

theorem Date.render_ascii (d : Date) : ∀ c ∈ d.render.toList, c.toNat < 0x80 := by
  obtain ⟨hy, hm, hd⟩ := d.bounds
  have hdigit : ∀ n, n < 10 → (Nat.digitChar n).toNat < 0x80 := Decimal.digitChar_ascii
  have hhyphen : '-'.toNat < 0x80 := by decide
  rw [toList_render]
  simp only [List.forall_mem_cons]
  refine ⟨hdigit _ ?_, hdigit _ ?_, hdigit _ ?_, hdigit _ ?_, hhyphen, hdigit _ ?_, hdigit _ ?_, hhyphen, hdigit _ ?_,
    hdigit _ ?_, fun _ h => by cases h⟩
  all_goals omega

theorem takeDay_render (d : Date) : takeDay d.render.toList = .ok ((d.year, d.month, d.day), []) := by
  obtain ⟨hy, hm, hd⟩ := d.bounds
  obtain ⟨-, -, hday, hdays⟩ := d.isDate
  have year : 100 * (10 * (d.year / 10 / 10 / 10) + d.year / 10 / 10 % 10) + (10 * (d.year / 10 % 10) + d.year % 10) =
    d.year := by omega
  have month : 10 * (d.month / 10) + d.month % 10 = d.month := by omega
  have day : 10 * (d.day / 10) + d.day % 10 = d.day := by omega
  have h := takeDay_digits (a := d.year / 10 / 10 / 10) (b := d.year / 10 / 10 % 10) (c := d.year / 10 % 10)
    (d := d.year % 10) (e := d.month / 10) (f := d.month % 10) (g := d.day / 10) (h := d.day % 10)
    ⟨by omega, by omega⟩ ⟨by omega, by omega⟩ ⟨by omega, by omega⟩ ⟨by omega, by omega⟩
    (by rw [year, month]; omega) (by rw [year, month, day]; omega)
  rwa [year, month, day, ← Date.toList_render] at h

/-- A written date is read as the date. -/
theorem Date.ofString_render (d : Date) : ofString d.render = .ok d := by
  have hread : readDayAndTime d.render.toList = .ok ((d.year, d.month, d.day), true) := by
    rw [readDayAndTime, takeDay_render]
    rfl
  have hparts : ofParts? d.year d.month d.day = some d := dif_pos d.isDate
  rw [ofString, Text.bytes_of_ascii d.render_ascii, ofText, hread]
  dsimp only
  rw [hparts]
  rfl

end Calendar

end ParticipantDirectory
