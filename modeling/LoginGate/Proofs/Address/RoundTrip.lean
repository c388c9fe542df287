import LoginGate.Address
import Mathlib.Data.List.TakeWhile

/-! # Addresses written and read

The text of an address denotes that address and no other. Numerals hold neither dots nor colons, so
the fields of a text are the numerals it was made of; where a run of zero groups was left out, the
number of the other groups tells how long it was.
-/

namespace LoginGate.Address

open Text

/-! ## Separators -/

private theorem joined_cons {separator : Char} {first : List Char} {rest : List (List Char)}
    (more : rest ≠ []) :
    joined separator (first :: rest) = first ++ separator :: joined separator rest := by
  cases rest with
  | nil => exact absurd rfl more
  | cons second others => rfl

/-- Texts without the separator are the fields of what they are joined to. -/
theorem fields_joined {separator : Char} {texts : List (List Char)} (some : texts ≠ [])
    (plain : ∀ text ∈ texts, separator ∉ text) :
    fields (· == separator) (joined separator texts) = texts := by
  induction texts with
  | nil => exact absurd rfl some
  | cons first rest ih =>
    obtain ⟨here, later⟩ := List.forall_mem_cons.mp plain
    have differs : ∀ c ∈ first, (c == separator) = false := fun c member =>
      beq_false_of_ne fun same => here (same ▸ member)
    by_cases more : rest = []
    · subst more
      exact fields_eq_singleton differs
    · rw [joined_cons more, fields_append_cons differs (beq_self_eq_true separator), ih more later]

private theorem mem_joined {separator c : Char} {texts : List (List Char)}
    (member : c ∈ joined separator texts) : c = separator ∨ ∃ text ∈ texts, c ∈ text := by
  induction texts with
  | nil => cases member
  | cons first rest ih =>
    by_cases more : rest = []
    · subst more
      exact .inr ⟨first, List.mem_cons_self, member⟩
    · rw [joined_cons more, List.mem_append, List.mem_cons] at member
      rcases member with here | same | later
      · exact .inr ⟨first, List.mem_cons_self, here⟩
      · exact .inl same
      · exact (ih later).imp_right fun ⟨text, other, digit⟩ =>
          ⟨text, List.mem_cons_of_mem _ other, digit⟩

/-! ## Four octets -/

private theorem octet?_decimal {n : Nat} (small : n < 256) : octet? (decimal n) = some n := by
  have all : ∀ octet : Fin 256, octet? (decimal octet) = some octet.val := by decide +kernel
  exact all ⟨n, small⟩

private theorem dot_not_mem_decimal (n : Nat) : '.' ∉ decimal n :=
  not_mem_toDigits (by decide) (by decide) (by decide) n

private theorem colon_not_mem_decimal (n : Nat) : ':' ∉ decimal n :=
  not_mem_toDigits (by decide) (by decide) (by decide) n

private theorem fields_dotted (bits : Nat) :
    fields (· == '.') (dotted bits) = (octets bits).map decimal := by
  refine fields_joined (by simp [octets]) fun text member => ?_
  obtain ⟨octet, -, rfl⟩ := List.mem_map.mp member
  exact dot_not_mem_decimal octet

theorem dotted?_dotted {bits : Nat} (fits : bits < 1 <<< 32) :
    dotted? (dotted bits) = some bits := by
  have byte (n : Nat) : n % 256 < 256 := Nat.mod_lt _ (by decide)
  have whole : (((bits >>> 24 % 256 * 256 + bits >>> 16 % 256) * 256 + bits >>> 8 % 256) * 256 +
      bits % 256) = bits := by
    simp only [Nat.shiftRight_eq_div_pow, Nat.shiftLeft_eq] at fits ⊢
    omega
  simp only [dotted?, fields_dotted, octets, List.map_cons, List.map_nil, octet?_decimal (byte _),
    Option.bind_eq_bind, Option.bind_some, whole]

theorem dotted?_eq_none {text : List Char} (plain : '.' ∉ text) : dotted? text = none := by
  have alone : fields (· == '.') text = [text] :=
    fields_eq_singleton fun c member => beq_false_of_ne fun same => plain (same ▸ member)
  rw [dotted?, alone]

theorem dotted?_decimal (n : Nat) : dotted? (decimal n) = none :=
  dotted?_eq_none (dot_not_mem_decimal n)

/-! ## Groups -/

private theorem group?_toDigits {group : Nat} (small : group < 65536) :
    group? (Nat.toDigits 16 group) = some group := by
  have short : (Nat.toDigits 16 group).length ≤ 4 :=
    (Nat.length_toDigits_le_iff (by decide) (by decide)).mpr small
  rw [group?, if_pos short, numeral?_toDigits (by decide) (by decide)]

private theorem colon_not_mem_toDigits (group : Nat) : ':' ∉ Nat.toDigits 16 group :=
  not_mem_toDigits (by decide) (by decide) (by decide) group

private theorem dot_not_mem_toDigits (group : Nat) : '.' ∉ Nat.toDigits 16 group :=
  not_mem_toDigits (by decide) (by decide) (by decide) group

/-- Groups are read back one by one, and the last one is not taken for a dotted tail. -/
private theorem groupList?_toDigits (tail : Bool) {groups : List Nat}
    (small : ∀ group ∈ groups, group < 65536) :
    groupList? tail (groups.map (Nat.toDigits 16)) = some groups := by
  induction groups with
  | nil => rfl
  | cons group rest ih =>
    obtain ⟨here, later⟩ := List.forall_mem_cons.mp small
    cases rest with
    | nil =>
      have plain : (if tail = true then dotted? (Nat.toDigits 16 group) else none) = none := by
        rw [dotted?_eq_none (dot_not_mem_toDigits group), ite_self]
      simp only [List.map_cons, List.map_nil, groupList?, plain, group?_toDigits here,
        Option.map_some]
    | cons second others =>
      have rest := ih later
      rw [List.map_cons] at rest ⊢
      rw [List.map_cons, groupList?, rest, group?_toDigits here]
      · rfl
      · simp

/-! ## The gap -/

/-- Nothing is cut before the first colon. -/
private theorem cutGap_append {front : List Char} (plain : ':' ∉ front) (rest : List Char) :
    cutGap (front ++ rest) = (cutGap rest).map fun cut => (front ++ cut.1, cut.2) := by
  induction front with
  | nil => simp
  | cons c front ih =>
    obtain ⟨here, later⟩ := not_or.mp (List.mem_cons.not.mp plain)
    rw [List.cons_append, cutGap, ih later, Option.map_map]
    · rfl
    · intro _ same; exact fun _ => here same.symm

private theorem exists_colons_eq_cons (group : Nat) (others : List Nat) :
    ∃ digit rest, colons (group :: others) = digit :: rest ∧ digit ≠ ':' := by
  obtain ⟨digit, more, numeral⟩ :=
    List.exists_cons_of_ne_nil (Nat.toDigits_ne_nil : Nat.toDigits 16 group ≠ [])
  have differs : digit ≠ ':' := by
    rintro rfl
    exact colon_not_mem_toDigits group (numeral ▸ List.mem_cons_self)
  cases others with
  | nil => exact ⟨digit, more, numeral, differs⟩
  | cons second others =>
    exact ⟨digit, more ++ ':' :: colons (second :: others), congrArg (· ++ _) numeral, differs⟩

/-- The colons between groups stand alone, so the first gap comes after the groups. -/
private theorem cutGap_colons_append (groups : List Nat) (rest : List Char) :
    cutGap (colons groups ++ rest) =
      (cutGap rest).map fun cut => (colons groups ++ cut.1, cut.2) := by
  induction groups with
  | nil => simp [colons, joined]
  | cons group others ih =>
    cases others with
    | nil => exact cutGap_append (colon_not_mem_toDigits group) rest
    | cons second others =>
      obtain ⟨digit, more, begins, differs⟩ := exists_colons_eq_cons second others
      have separated : colons (group :: second :: others) ++ rest =
          Nat.toDigits 16 group ++ ':' :: (colons (second :: others) ++ rest) :=
        List.append_assoc _ (':' :: _) rest
      have single : cutGap (':' :: (colons (second :: others) ++ rest)) =
          (cutGap (colons (second :: others) ++ rest)).map fun cut => (':' :: cut.1, cut.2) := by
        rw [begins, List.cons_append, cutGap]
        exact fun _ _ same => differs (List.cons.inj same).1
      rw [separated, cutGap_append (colon_not_mem_toDigits group), single, ih, Option.map_map,
        Option.map_map]
      refine congrArg (Option.map · _) (funext fun cut => Prod.ext ?_ rfl)
      exact (List.append_assoc _ (':' :: _) _).symm

private theorem cutGap_colons (groups : List Nat) : cutGap (colons groups) = none := by
  have cut := cutGap_colons_append groups []
  rwa [List.append_nil] at cut

private theorem fields_colons {groups : List Nat} (some : groups ≠ []) :
    fields (· == ':') (colons groups) = groups.map (Nat.toDigits 16) := by
  refine fields_joined (by simpa using some) fun text member => ?_
  obtain ⟨group, -, rfl⟩ := List.mem_map.mp member
  exact colon_not_mem_toDigits group

private theorem side?_colons (tail : Bool) {groups : List Nat}
    (small : ∀ group ∈ groups, group < 65536) :
    side? tail (colons groups) = some groups := by
  cases groups with
  | nil => rfl
  | cons group rest =>
    obtain ⟨digit, more, begins, -⟩ := exists_colons_eq_cons group rest
    rw [side?, if_neg (by rw [begins]; exact Bool.false_ne_true), fields_colons (List.cons_ne_nil _ _),
      groupList?_toDigits tail small]

/-! ## The longest run of zeros -/

/-- What is found is a run of zeros. -/
private theorem longestZeros_le (groups : List Nat) :
    (longestZeros groups).2 ≤ zerosAt groups (longestZeros groups).1 := by
  let isRun (best : Nat × Nat) : Prop := best.2 ≤ zerosAt groups best.1
  have kept : ∀ best start, isRun best →
      isRun (if best.2 < zerosAt groups start then (start, zerosAt groups start) else best) := by
    intro best start run
    split
    · exact Nat.le_refl _
    · exact run
  exact List.foldlRecOn (motive := isRun) _ _ (Nat.zero_le _) fun best run start _ => kept best start run

/-- A run of zeros that is left out can be restored from its length. -/
private theorem take_append_zeros {groups : List Nat} {start length : Nat}
    (run : length ≤ zerosAt groups start) :
    groups.take start ++ List.replicate length 0 ++ groups.drop (start + length) = groups := by
  have zeros : (groups.drop start).take length = List.replicate length 0 := by
    have whole := List.prefix_iff_eq_take.mp (List.takeWhile_prefix (· == 0) (l := groups.drop start))
    refine List.eq_replicate_iff.mpr ⟨?_, fun group member => ?_⟩
    · have bound := (List.takeWhile_prefix (· == 0) (l := groups.drop start)).length_le
      rw [List.length_take]
      exact Nat.min_eq_left (Nat.le_trans run bound)
    · have zero : group ∈ (groups.drop start).takeWhile (· == 0) := by
        rw [whole]
        exact List.take_subset_take_left _ run member
      have passes := List.mem_takeWhile_imp zero
      exact beq_iff_eq.mp passes
  rw [← zeros, List.append_assoc, ← List.drop_drop, List.take_append_drop,
    List.take_append_drop]

private theorem allGroups?_compressed {groups : List Nat} (eight : groups.length = 8)
    (small : ∀ group ∈ groups, group < 65536) : allGroups? (compressed groups) = some groups := by
  have run := longestZeros_le groups
  rw [compressed]
  generalize longestZeros groups = found at run ⊢
  obtain ⟨start, length⟩ := found
  dsimp only at run ⊢
  split
  · next long =>
    have restored := take_append_zeros run
    have lengths : (groups.take start).length + length + (groups.drop (start + length)).length = 8 := by
      have total := congrArg List.length restored
      rw [List.length_append, List.length_append, List.length_replicate, eight] at total
      exact total
    have front : side? false (colons (groups.take start)) = some (groups.take start) :=
      side?_colons false fun group member => small group (List.mem_of_mem_take member)
    have back : side? true (colons (groups.drop (start + length))) =
        some (groups.drop (start + length)) :=
      side?_colons true fun group member => small group (List.mem_of_mem_drop member)
    have cut : cutGap (colons (groups.take start) ++ [':', ':'] ++
        colons (groups.drop (start + length))) =
        some (colons (groups.take start), colons (groups.drop (start + length))) := by
      rw [List.append_assoc, cutGap_colons_append, List.cons_append, List.cons_append, cutGap]
      simp
    have left : 8 - ((groups.take start).length + (groups.drop (start + length)).length) =
        length := by omega
    simp only [allGroups?, cut, front, back, Option.bind_eq_bind, Option.bind_some, left, restored]
    rw [if_pos (by omega)]
  · have some : groups ≠ [] := List.ne_nil_of_length_eq_add_one eight
    rw [allGroups?, cutGap_colons, fields_colons some, groupList?_toDigits true small]
    simp [eight]

/-! ## Whole addresses -/

private theorem groups_lt (bits : Nat) : ∀ group ∈ groups bits, group < 65536 := by
  have word (n : Nat) : n % 65536 < 65536 := Nat.mod_lt _ (by decide)
  simp only [groups, List.forall_mem_cons, word, true_and]
  exact List.forall_mem_nil _

/-- The groups make up the bits again. -/
private theorem foldl_groups {bits : Nat} (fits : bits < 1 <<< 128) :
    (groups bits).foldl (fun bits group => bits * 65536 + group) 0 = bits := by
  simp only [groups, List.foldl_cons, List.foldl_nil, Nat.shiftRight_eq_div_pow,
    Nat.shiftLeft_eq] at fits ⊢
  omega

private theorem allGroups?_mapped {bits : Nat} (fits : bits < 1 <<< 32) :
    allGroups? ("::ffff:".toList ++ dotted bits) =
      some (List.replicate 5 0 ++ [65535, bits / 65536, bits % 65536]) := by
  have plain : ∀ c ∈ dotted bits, (c == ':') = false := by
    intro c member
    refine beq_false_of_ne fun same => ?_
    rcases mem_joined member with separator | ⟨text, octet, digit⟩
    · exact absurd (same.symm.trans separator) (by decide)
    · obtain ⟨value, -, rfl⟩ := List.mem_map.mp octet
      exact colon_not_mem_decimal value (same ▸ digit)
  have cut : cutGap ("::ffff:".toList ++ dotted bits) =
      some ([], "ffff".toList ++ ':' :: dotted bits) := by
    have marks : "::ffff:".toList = ':' :: ':' :: ("ffff".toList ++ [':']) := by decide
    rw [marks, List.cons_append, List.cons_append, cutGap, List.append_assoc,
      List.singleton_append]
  have sides : fields (· == ':') ("ffff".toList ++ ':' :: dotted bits) =
      ["ffff".toList, dotted bits] := by
    have letters : ∀ c ∈ "ffff".toList, (c == ':') = false := by simp
    rw [fields_append_cons letters (by decide), fields_eq_singleton plain]
  have tail : groupList? true ["ffff".toList, dotted bits] =
      some [65535, bits / 65536, bits % 65536] := by
    have marked : group? "ffff".toList = some 65535 := by decide
    rw [groupList?, marked, groupList?, if_pos rfl, dotted?_dotted fits]
    · rfl
    · exact List.cons_ne_nil _ _
  have front : side? false [] = some [] := rfl
  have back : side? true ("ffff".toList ++ ':' :: dotted bits) =
      some [65535, bits / 65536, bits % 65536] := by
    rw [side?, if_neg (by simp), sides, tail]
  simp only [allGroups?, cut, front, back, Option.bind_eq_bind, Option.bind_some]
  rfl

/-- The colons in front keep a mapped address from being taken for a dotted one. -/
private theorem dotted?_mapped (bits : Nat) : dotted? ("::ffff:".toList ++ dotted bits) = none := by
  have parts : fields (· == '.') ("::ffff:".toList ++ dotted bits) =
      ("::ffff:".toList ++ decimal (bits >>> 24 % 256)) ::
        [bits >>> 16 % 256, bits >>> 8 % 256, bits % 256].map decimal := by
    have marked : '.' ∉ "::ffff:".toList ++ decimal (bits >>> 24 % 256) := by
      rw [List.mem_append, not_or]
      exact ⟨by decide, dot_not_mem_decimal _⟩
    have spelled : "::ffff:".toList ++ dotted bits =
        joined '.' (("::ffff:".toList ++ decimal (bits >>> 24 % 256)) ::
          [bits >>> 16 % 256, bits >>> 8 % 256, bits % 256].map decimal) :=
      (List.append_assoc _ _ _).symm
    rw [spelled]
    refine fields_joined (List.cons_ne_nil _ _) (List.forall_mem_cons.mpr ⟨marked, ?_⟩)
    intro text member
    obtain ⟨octet, -, rfl⟩ := List.mem_map.mp member
    exact dot_not_mem_decimal octet
  have long : octet? ("::ffff:".toList ++ decimal (bits >>> 24 % 256)) = none := by
    rw [octet?, if_neg (by simp)]
  simp only [dotted?, parts, List.map_cons, List.map_nil, long, Option.bind_eq_bind,
    Option.bind_none]

/-- No dot stands between groups. -/
private theorem dotted?_compressed (groups : List Nat) : dotted? (compressed groups) = none := by
  have plain (groups : List Nat) : '.' ∉ colons groups := by
    intro dot
    rcases mem_joined dot with separator | ⟨text, group, digit⟩
    · exact absurd separator (by decide)
    · obtain ⟨value, -, rfl⟩ := List.mem_map.mp group
      exact dot_not_mem_toDigits value digit
  refine dotted?_eq_none ?_
  rw [compressed]
  dsimp only
  split
  · simp only [List.mem_append, not_or]
    exact ⟨⟨plain _, by decide⟩, plain _⟩
  · exact plain groups

private theorem foldl_mapped {bits : Nat} {fits : bits < 1 <<< Family.v6.width}
    (mapped : isMapped ⟨.v6, bits, fits⟩ = true) :
    (List.replicate 5 0 ++ [65535, bits % 1 <<< 32 / 65536, bits % 1 <<< 32 % 65536]).foldl
      (fun bits group => bits * 65536 + group) 0 = bits := by
  have high : bits >>> 32 = 0xFFFF := by
    simpa only [isMapped, beq_self_eq_true, Bool.true_and, beq_iff_eq] using mapped
  simp only [List.replicate, List.cons_append, List.nil_append, List.foldl_cons, List.foldl_nil,
    Nat.shiftRight_eq_div_pow, Nat.shiftLeft_eq] at high ⊢
  omega

/-- What is read as groups denotes the address that they make up. -/
private theorem ofText?_of_groups {text : List Char} {groups : List Nat} {bits : Nat}
    (fits : bits < 1 <<< Family.v6.width) (undotted : dotted? text = none)
    (read : allGroups? text = some groups)
    (whole : groups.foldl (fun bits group => bits * 65536 + group) 0 = bits) :
    ofText? text = some ⟨.v6, bits, fits⟩ := by
  simp only [ofText?, undotted, read, Option.bind_eq_bind, Option.bind_some, whole]
  exact dif_pos fits

/-- An address is what its text denotes. -/
theorem ofText?_toText (address : Address) : ofText? address.toText = some address := by
  obtain ⟨family, bits, fits⟩ := address
  cases family with
  | v4 =>
    rw [toText, ofText?, dotted?_dotted fits]
    exact dif_pos fits
  | v6 =>
    by_cases mapped : isMapped ⟨.v6, bits, fits⟩ = true
    · have text : toText ⟨.v6, bits, fits⟩ = "::ffff:".toList ++ dotted (bits % 1 <<< 32) :=
        if_pos mapped
      have low : bits % 1 <<< 32 < 1 <<< 32 := Nat.mod_lt _ (by decide)
      rw [text]
      exact ofText?_of_groups fits (dotted?_mapped _) (allGroups?_mapped low) (foldl_mapped mapped)
    · have text : toText ⟨.v6, bits, fits⟩ = compressed (groups bits) := if_neg mapped
      rw [text]
      exact ofText?_of_groups fits (dotted?_compressed _)
        (allGroups?_compressed rfl (groups_lt bits)) (foldl_groups fits)

/-! ## The characters of an address -/

private theorem digit_of_mem_dotted {bits : Nat} {c : Char} (member : c ∈ dotted bits) :
    (digitValue? c).isSome = true ∨ c = '.' := by
  rcases mem_joined member with dot | ⟨text, octet, digit⟩
  · exact .inr dot
  · obtain ⟨value, -, rfl⟩ := List.mem_map.mp octet
    exact .inl (isSome_digitValue?_of_mem_toDigits (by decide) (by decide) digit)

private theorem digit_of_mem_colons {groups : List Nat} {c : Char} (member : c ∈ colons groups) :
    (digitValue? c).isSome = true ∨ c = ':' := by
  rcases mem_joined member with colon | ⟨text, group, digit⟩
  · exact .inr colon
  · obtain ⟨value, -, rfl⟩ := List.mem_map.mp group
    exact .inl (isSome_digitValue?_of_mem_toDigits (by decide) (by decide) digit)

private theorem digit_of_mem_compressed {groups : List Nat} {c : Char}
    (member : c ∈ compressed groups) : (digitValue? c).isSome = true ∨ c = ':' := by
  rw [compressed] at member
  dsimp only at member
  split at member
  · simp only [List.mem_append, List.mem_cons, List.not_mem_nil, or_false, or_self] at member
    rcases member with (front | colon) | back
    · exact digit_of_mem_colons front
    · exact .inr colon
    · exact digit_of_mem_colons back
  · exact digit_of_mem_colons member

/-- The text of an address consists of digits, dots and colons. -/
theorem digit_of_mem_toText {address : Address} {c : Char} (member : c ∈ address.toText) :
    (digitValue? c).isSome = true ∨ c = '.' ∨ c = ':' := by
  rw [toText] at member
  split at member
  · exact (digit_of_mem_dotted member).imp_right .inl
  · split at member
    · rcases List.mem_append.mp member with mark | tail
      · have marks : "::ffff:".toList.all (fun c => (digitValue? c).isSome || c == ':') = true := by
          decide
        have either := List.all_eq_true.mp marks c mark
        rw [Bool.or_eq_true, beq_iff_eq] at either
        exact either.imp_right .inr
      · exact (digit_of_mem_dotted tail).imp_right .inl
    · exact (digit_of_mem_compressed member).imp_right .inr

/-! ## Texts of addresses -/

theorem ofText?_toString (address : Address) :
    ofText? (toString address).toList = some address :=
  (congrArg ofText? String.toList_ofList).trans (ofText?_toText address)

theorem toString_inj {address other : Address} : toString address = toString other ↔ address = other := by
  refine ⟨fun same => ?_, fun same => by rw [same]⟩
  have denoted := congrArg (fun text : String => ofText? text.toList) same
  simpa only [ofText?_toString, Option.some.injEq] using denoted

/-- A caller who spells an address as it is written means its canonical form. -/
theorem parse_toString (address : Address) : parse (toString address) = .ok address.canonical :=
  parse_eq_ok_iff.mpr ⟨address, ofText?_toString address, rfl⟩

end LoginGate.Address
