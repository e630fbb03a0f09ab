import SqlBuilder.Proofs.PercentDecoding
import SqlBuilder.Url.Basic

/-!
# Texts that become paths

A text that is made the path of a URL is looked at without tabs and line ends, cut at its slashes,
and its dot segments are resolved.  Each of these makes the path say less: read back, it is shorter
than the text by at least one byte for every dot segment that was there (`length_resolve_le`).  So a
text is read back from its path just if none of them applied to it and it has no escapes
(`decodeText?_path_iff`).
-/
namespace SqlBuilder.UrlPath

/-- Some segment of a text is one dot or two. -/
def HasDotSegment (text : List Char) : Prop :=
  ['.'] ∈ text.splitOn '/' ∨ ['.', '.'] ∈ text.splitOn '/'

instance (text : List Char) : Decidable (HasDotSegment text) :=
  inferInstanceAs (Decidable (_ ∨ _))

/-- A segment that is not kept as it is. -/
def isResolved (segment : List Char) : Bool := isDot segment || isDoubleDot segment

theorem isResolved_of_isDot {segment : List Char} (h : isDot segment = true) :
    isResolved segment = true := by
  rw [isResolved, h, Bool.true_or]

theorem isResolved_of_isDoubleDot {segment : List Char} (h : isDoubleDot segment = true) :
    isResolved segment = true := by
  rw [isResolved, h, Bool.or_true]

theorem not_isResolved {segment : List Char} (hdouble : ¬ isDoubleDot segment = true)
    (hdot : ¬ isDot segment = true) : ¬ isResolved segment = true := by
  intro h
  rcases Bool.or_eq_true_iff.mp h with h | h
  · exact hdot h
  · exact hdouble h

/-- Segments behind slashes. -/
def joined (segments : List (List Char)) : List Char :=
  segments.flatMap fun segment => '/' :: segment

theorem joined_append (segments more : List (List Char)) :
    joined (segments ++ more) = joined segments ++ joined more :=
  List.flatMap_append

theorem joined_eq_intercalate {segments : List (List Char)} (h : segments ≠ []) :
    joined segments = '/' :: ['/'].intercalate segments := by
  induction segments with
  | nil => exact absurd rfl h
  | cons segment rest ih =>
    cases rest with
    | nil => simp [joined]
    | cons next rest =>
      have hrest := ih (List.cons_ne_nil _ _)
      rw [List.intercalate_cons_cons, List.append_assoc, List.singleton_append, ← hrest]
      rfl

theorem encode_intercalate (segments : List (List Char)) :
    Percent.encode Percent.inPath (['/'].intercalate segments) =
      ['/'].intercalate (segments.map (Percent.encode Percent.inPath)) := by
  induction segments with
  | nil => rfl
  | cons segment rest ih =>
    cases rest with
    | nil => simp
    | cons next rest =>
      rw [List.intercalate_cons_cons, Percent.encode_append, Percent.encode_append, ih]
      exact List.intercalate_cons_cons.symm

/-- The segments of a text, encoded. -/
def segments (text : List Char) : List (List Char) :=
  (text.splitOn '/').map (Percent.encode Percent.inPath)

theorem segments_ne_nil (text : List Char) : segments text ≠ [] := by
  intro h
  exact List.splitOnP_ne_nil _ _ (List.map_eq_nil_iff.mp h)

/-- The encoded segments of a text, put together again, are the encoded text behind a slash. -/
theorem joined_segments (text : List Char) :
    joined (segments text) = '/' :: Percent.encode Percent.inPath text := by
  rw [joined_eq_intercalate (segments_ne_nil text), segments, ← encode_intercalate,
    List.intercalate_splitOn]

theorem ofText_eq (text : List Char) : ofText text = joined (resolve [] (segments text)) := rfl

/-! ## Reading a path -/

theorem startsEscape_append_slash {c : Char} {text : List Char} (rest : List Char)
    (h : Percent.startsEscape (c :: text) = false) :
    Percent.startsEscape (c :: (text ++ '/' :: rest)) = false := by
  refine Bool.eq_false_iff.mpr fun hstarts => ?_
  obtain ⟨high, low, behind, heq, hhigh, hlow⟩ := Percent.exists_of_startsEscape hstarts
  have hslash : Ipv6.isHexDigit '/' = false := by decide
  injection heq with hc heq
  subst hc
  cases text with
  | nil =>
    injection heq with hfirst _
    rw [← hfirst, hslash] at hhigh
    cases hhigh
  | cons first text =>
    injection heq with hfirst heq
    subst hfirst
    cases text with
    | nil =>
      injection heq with hsecond _
      rw [← hsecond, hslash] at hlow
      cases hlow
    | cons second text =>
      injection heq with hsecond _
      subst hsecond
      exact Bool.eq_false_iff.mp h (Bool.and_eq_true_iff.mpr ⟨hhigh, hlow⟩)

/-- No escape goes over a slash. -/
theorem decode_append_slash (text rest : List Char) :
    Percent.decode (text ++ '/' :: rest) = Percent.decode text ++ Percent.decode ('/' :: rest) := by
  induction text using Percent.induction_escapes with
  | nil => rfl
  | escape high low more hhigh hlow ih =>
    show Percent.decode ('%' :: high :: low :: (more ++ '/' :: rest)) = _
    rw [Percent.decode_escape hhigh hlow, Percent.decode_escape hhigh hlow, ih]
    rfl
  | char c more hc ih =>
    rw [List.cons_append, Percent.decode_cons (startsEscape_append_slash rest hc),
      Percent.decode_cons hc, ih, List.append_assoc]

/-- The bytes that segments behind slashes are read as. -/
def octets (segments : List (List Char)) : List UInt8 := Percent.decode (joined segments)

theorem length_octets_cons (segment : List Char) (rest : List (List Char)) :
    (octets (segment :: rest)).length =
      1 + (Percent.decode segment).length + (octets rest).length := by
  have hslash : (String.utf8EncodeChar '/').length = 1 := by decide
  have hjoined :
      Percent.decode (segment ++ joined rest) = Percent.decode segment ++ octets rest := by
    cases rest with
    | nil => exact (congrArg _ (List.append_nil segment)).trans (List.append_nil _).symm
    | cons next rest => exact decode_append_slash segment (next ++ joined rest)
  show (Percent.decode ('/' :: (segment ++ joined rest))).length = _
  rw [Percent.decode_cons_of_ne (by decide), List.length_append, hslash, hjoined,
    List.length_append, Nat.add_assoc]

theorem length_octets_append (segments more : List (List Char)) :
    (octets (segments ++ more)).length = (octets segments).length + (octets more).length := by
  induction segments with
  | nil => exact (Nat.zero_add _).symm
  | cons segment rest ih =>
    rw [List.cons_append, length_octets_cons, length_octets_cons, ih]
    omega

theorem length_octets_reverse (segments : List (List Char)) :
    (octets segments.reverse).length = (octets segments).length := by
  induction segments with
  | nil => rfl
  | cons segment rest ih =>
    rw [List.reverse_cons, length_octets_append, length_octets_cons, length_octets_cons, ih]
    exact Nat.add_comm _ _

/-! ## What resolving takes away -/

/-- A dot in front of a segment, in whichever form it is written. -/
theorem exists_of_plainDots {segment rest : List Char} (h : plainDots segment = '.' :: rest) :
    ∃ more, plainDots more = rest ∧
      Percent.decode segment = String.utf8EncodeChar '.' ++ Percent.decode more := by
  have hlower : Percent.octet '2' 'e' :: [] = String.utf8EncodeChar '.' := by decide
  have hupper : Percent.octet '2' 'E' :: [] = String.utf8EncodeChar '.' := by decide
  rw [plainDots.eq_def] at h
  split at h
  · next more =>
    injection h with _ hrest
    refine ⟨more, hrest, ?_⟩
    rw [Percent.decode_escape (by decide) (by decide), ← hlower]
    rfl
  · next more =>
    injection h with _ hrest
    refine ⟨more, hrest, ?_⟩
    rw [Percent.decode_escape (by decide) (by decide), ← hupper]
    rfl
  · next c more _ _ =>
    injection h with hc hrest
    subst hc
    exact ⟨more, hrest, Percent.decode_cons_of_ne (by decide) more⟩
  · cases h

theorem eq_nil_of_plainDots {segment : List Char} (h : plainDots segment = []) : segment = [] := by
  rw [plainDots.eq_def] at h
  split at h
  · cases h
  · cases h
  · cases h
  · rfl

theorem decode_of_isDot {segment : List Char} (h : isDot segment = true) :
    Percent.decode segment = Percent.utf8 ['.'] := by
  obtain ⟨more, hmore, hdecode⟩ := exists_of_plainDots (beq_iff_eq.mp h)
  rw [hdecode, eq_nil_of_plainDots hmore]
  rfl

theorem decode_of_isDoubleDot {segment : List Char} (h : isDoubleDot segment = true) :
    Percent.decode segment = Percent.utf8 ['.', '.'] := by
  obtain ⟨more, hmore, hdecode⟩ := exists_of_plainDots (beq_iff_eq.mp h)
  obtain ⟨last, hlast, hdecode_more⟩ := exists_of_plainDots hmore
  rw [hdecode, hdecode_more, eq_nil_of_plainDots hlast]
  rfl

theorem length_decode_pos {segment : List Char} (h : isResolved segment = true) :
    0 < (Percent.decode segment).length := by
  rcases Bool.or_eq_true_iff.mp h with h | h
  · rw [decode_of_isDot h]
    decide
  · rw [decode_of_isDoubleDot h]
    decide

theorem length_octets_parent_le (before : List (List Char)) :
    (octets (parent before)).length ≤ (octets before).length := by
  cases before with
  | nil => exact Nat.le_refl _
  | cons last before =>
    rw [parent]
    split
    · exact Nat.le_refl _
    · rw [length_octets_cons]
      omega

theorem length_octets_nil_cons (before : List (List Char)) :
    (octets (before ++ [[]])).length = (octets before).length + 1 :=
  length_octets_append before [[]]

/-- Every segment that is resolved costs the path a byte. -/
theorem length_resolve_le (before segments : List (List Char)) :
    (octets (resolve before segments)).length + segments.countP isResolved ≤
      (octets before).length + (octets segments).length := by
  have hcount : ∀ segment : List Char,
      (if isResolved segment = true then 1 else 0) ≤ (Percent.decode segment).length := by
    intro segment
    split
    · next h => exact length_decode_pos h
    · exact Nat.zero_le _
  fun_induction resolve before segments with
  | case1 before =>
    rw [length_octets_reverse]
    exact Nat.le_refl _
  | case2 before last hdots =>
    have hparent := length_octets_parent_le before
    have hlast := hcount last
    rw [length_octets_nil_cons, length_octets_reverse, List.countP_singleton, length_octets_cons]
    omega
  | case3 before last hno hdot =>
    have hlast := hcount last
    rw [length_octets_nil_cons, length_octets_reverse, List.countP_singleton, length_octets_cons]
    omega
  | case4 before last hno hdot =>
    have hresolved : ¬ isResolved last = true := not_isResolved hno hdot
    rw [length_octets_append, length_octets_reverse, List.countP_singleton, if_neg hresolved]
    exact Nat.le_refl _
  | case5 before segment rest hlong hdots ih =>
    have hparent := length_octets_parent_le before
    have hsegment := hcount segment
    rw [List.countP_cons, length_octets_cons]
    omega
  | case6 before segment rest hlong hno hdot ih =>
    have hsegment := hcount segment
    rw [List.countP_cons, length_octets_cons]
    omega
  | case7 before segment rest hlong hno hdot ih =>
    have hresolved : ¬ isResolved segment = true := not_isResolved hno hdot
    rw [length_octets_cons] at ih
    rw [List.countP_cons, if_neg hresolved, length_octets_cons]
    omega

/-! ## Paths as they are written -/

theorem resolve_of_not_isResolved {before segments : List (List Char)}
    (h : ∀ segment ∈ segments, isResolved segment = false) :
    resolve before segments = before.reverse ++ segments := by
  fun_induction resolve before segments with
  | case1 before => exact (List.append_nil _).symm
  | case2 before last hdots =>
    have hlast := h last List.mem_cons_self
    exact absurd (isResolved_of_isDoubleDot hdots) (Bool.eq_false_iff.mp hlast)
  | case3 before last hno hdot =>
    have hlast := h last List.mem_cons_self
    exact absurd (isResolved_of_isDot hdot) (Bool.eq_false_iff.mp hlast)
  | case4 before last hno hdot => rfl
  | case5 before segment rest hlong hdots ih =>
    have hsegment := h segment List.mem_cons_self
    exact absurd (isResolved_of_isDoubleDot hdots) (Bool.eq_false_iff.mp hsegment)
  | case6 before segment rest hlong hno hdot ih =>
    have hsegment := h segment List.mem_cons_self
    exact absurd (isResolved_of_isDot hdot) (Bool.eq_false_iff.mp hsegment)
  | case7 before segment rest hlong hno hdot ih =>
    rw [ih fun other hother => h other (List.mem_cons_of_mem _ hother), List.reverse_cons,
      List.append_assoc, List.singleton_append]

theorem resolve_ne_nil {before segments : List (List Char)} (h : segments ≠ []) :
    resolve before segments ≠ [] := by
  fun_induction resolve before segments with
  | case1 before => exact absurd rfl h
  | case2 before last hdots => exact List.append_ne_nil_of_right_ne_nil _ (List.cons_ne_nil _ _)
  | case3 before last hno hdot =>
    exact List.append_ne_nil_of_right_ne_nil _ (List.cons_ne_nil _ _)
  | case4 before last hno hdot =>
    exact List.append_ne_nil_of_right_ne_nil _ (List.cons_ne_nil _ _)
  | case5 before segment rest hlong hdots ih => exact ih hlong
  | case6 before segment rest hlong hno hdot ih => exact ih hlong
  | case7 before segment rest hlong hno hdot ih => exact ih hlong

theorem mem_of_mem_parent {before : List (List Char)} {segment : List Char}
    (h : segment ∈ parent before) : segment ∈ before := by
  cases before with
  | nil => exact h
  | cons last before =>
    rw [parent] at h
    split at h
    · exact h
    · exact List.mem_cons_of_mem last h

/-- Resolving keeps segments or leaves an empty one at the end. -/
theorem of_mem_resolve {before segments : List (List Char)} {segment : List Char}
    (h : segment ∈ resolve before segments) :
    segment ∈ before ∨ segment ∈ segments ∨ segment = [] := by
  fun_induction resolve before segments with
  | case1 before => exact .inl (List.mem_reverse.mp h)
  | case2 before last hdots =>
    rcases List.mem_append.mp h with h | h
    · exact .inl (mem_of_mem_parent (List.mem_reverse.mp h))
    · exact .inr (.inr (List.mem_singleton.mp h))
  | case3 before last hno hdot =>
    rcases List.mem_append.mp h with h | h
    · exact .inl (List.mem_reverse.mp h)
    · exact .inr (.inr (List.mem_singleton.mp h))
  | case4 before last hno hdot =>
    rcases List.mem_append.mp h with h | h
    · exact .inl (List.mem_reverse.mp h)
    · exact .inr (.inl h)
  | case5 before first rest hlong hdots ih =>
    rcases ih h with h | h | h
    · exact .inl (mem_of_mem_parent h)
    · exact .inr (.inl (List.mem_cons_of_mem first h))
    · exact .inr (.inr h)
  | case6 before first rest hlong hno hdot ih =>
    rcases ih h with h | h | h
    · exact .inl h
    · exact .inr (.inl (List.mem_cons_of_mem first h))
    · exact .inr (.inr h)
  | case7 before first rest hlong hno hdot ih =>
    rcases ih h with h | h | h
    · rcases List.mem_cons.mp h with rfl | h
      · exact .inr (.inl List.mem_cons_self)
      · exact .inl h
    · exact .inr (.inl (List.mem_cons_of_mem first h))
    · exact .inr (.inr h)

/-- A path begins with a slash. -/
theorem exists_ofText_eq_cons (text : List Char) : ∃ rest, ofText text = '/' :: rest := by
  have hsome : resolve [] (segments text) ≠ [] := resolve_ne_nil (segments_ne_nil text)
  exact ⟨_, joined_eq_intercalate hsome⟩

/-- What is written in bytes in a path never stands in one. -/
theorem inPath_of_mem_ofText {text : List Char} {c : Char} (h : c ∈ ofText text) :
    Percent.inPath c = false := by
  have hmem : c ∈ joined (resolve [] (segments text)) := h
  rw [joined, List.mem_flatMap] at hmem
  obtain ⟨segment, hsegment, hc⟩ := hmem
  rcases List.mem_cons.mp hc with rfl | hc
  · decide
  · rcases of_mem_resolve hsegment with hsegment | hsegment | rfl
    · cases hsegment
    · obtain ⟨plain, -, rfl⟩ := List.mem_map.mp hsegment
      rcases Percent.of_mem_encode hc with rfl | hdigit | ⟨-, hc⟩
      · decide
      · exact Percent.keepsEscapes_inPath.2 c hdigit
      · exact hc
    · cases hc

theorem length_octets_segments (text : List Char) :
    (octets (segments text)).length = 1 + (Percent.decode text).length := by
  have hslash : (String.utf8EncodeChar '/').length = 1 := by decide
  rw [octets, joined_segments, Percent.decode_cons_of_ne (by decide), List.length_append, hslash,
    Percent.decode_encode Percent.keepsEscapes_inPath]

theorem length_octets_resolve (text : List Char) :
    (octets (resolve [] (segments text))).length =
      1 + (Percent.decode ((ofText text).drop 1)).length := by
  have hslash : (String.utf8EncodeChar '/').length = 1 := by decide
  obtain ⟨rest, hrest⟩ := exists_ofText_eq_cons text
  rw [octets, ← ofText_eq, hrest, Percent.decode_cons_of_ne (by decide), List.length_append, hslash]
  rfl

theorem countP_segments_pos {text : List Char} (h : HasDotSegment text) :
    0 < (segments text).countP isResolved := by
  rw [List.countP_pos_iff]
  rcases h with h | h
  · exact ⟨['.'], List.mem_map.mpr ⟨_, h, by decide⟩, by decide⟩
  · exact ⟨['.', '.'], List.mem_map.mpr ⟨_, h, by decide⟩, by decide⟩

/-- An escape in a segment is one in the whole text. -/
theorem hasEscape_of_mem_splitOn {text segment : List Char} (hsegment : segment ∈ text.splitOn '/')
    (h : Percent.HasEscape segment) : Percent.HasEscape text := by
  obtain ⟨before, after, hsplit⟩ := List.append_of_mem hsegment
  have hsome : text.splitOn '/' ≠ [] := List.splitOnP_ne_nil _ _
  have htext : '/' :: text = (joined before ++ ['/']) ++ (segment ++ joined after) := by
    have hjoined := joined_eq_intercalate hsome
    rw [List.intercalate_splitOn, hsplit, joined_append] at hjoined
    rw [← hjoined, List.append_assoc]
    rfl
  have hwhole := h.surrounded (joined before ++ ['/']) (joined after)
  rw [← htext, Percent.hasEscape_cons_iff] at hwhole
  rcases hwhole with hslash | hwhole
  · rw [Percent.startsEscape_of_ne (by decide)] at hslash
    cases hslash
  · exact hwhole

theorem not_isResolved_of_mem_segments {text : List Char} (hescape : ¬ Percent.HasEscape text)
    (hdots : ¬ HasDotSegment text) : ∀ segment ∈ segments text, isResolved segment = false := by
  intro segment hsegment
  obtain ⟨plain, hplain, rfl⟩ := List.mem_map.mp hsegment
  have hread : Percent.decode (Percent.encode Percent.inPath plain) = Percent.utf8 plain := by
    rw [Percent.decode_encode Percent.keepsEscapes_inPath]
    exact Percent.decode_of_not_hasEscape fun h => hescape (hasEscape_of_mem_splitOn hplain h)
  refine Bool.eq_false_iff.mpr fun h => hdots ?_
  rcases Bool.or_eq_true_iff.mp h with h | h
  · rw [decode_of_isDot h] at hread
    exact .inl (Percent.utf8_injective hread ▸ hplain)
  · rw [decode_of_isDoubleDot h] at hread
    exact .inr (Percent.utf8_injective hread ▸ hplain)

theorem filter_of_not_isIgnored {text : List Char} (h : ∀ c ∈ text, Url.isIgnored c = false) :
    (text.filter fun c => !Url.isIgnored c) = text := by
  refine List.filter_eq_self.mpr fun c hc => ?_
  rw [h c hc]
  rfl

/-- **A text is read back from its path** just if it has no escapes, no dot segments, and none of
the characters that are ignored. -/
theorem decodeText?_path_iff (name : String) :
    Percent.decodeText? ((ofText (name.toList.filter fun c => !Url.isIgnored c)).drop 1) =
        some name ↔
      ¬ Percent.HasEscape name.toList ∧ ¬ HasDotSegment name.toList ∧
        ∀ c ∈ name.toList, Url.isIgnored c = false := by
  rw [Percent.decodeText?_eq_some_iff]
  constructor
  · intro h
    -- The lengths of all that lies between the path and the text, from the one to the other.
    have hpath := length_octets_resolve (name.toList.filter fun c => !Url.isIgnored c)
    have hresolve := length_resolve_le [] (segments (name.toList.filter fun c => !Url.isIgnored c))
    have hsegments := length_octets_segments (name.toList.filter fun c => !Url.isIgnored c)
    have hdecode := Percent.length_decode_le (name.toList.filter fun c => !Url.isIgnored c)
    have hfilter := Percent.length_utf8_filter_le (fun c => !Url.isIgnored c) name.toList
    have hnothing : (octets []).length = 0 := rfl
    rw [h] at hpath
    have hignored : ∀ c ∈ name.toList, Url.isIgnored c = false := by
      have hcount : name.toList.countP (fun c => !!Url.isIgnored c) = 0 := by omega
      intro c hc
      have hkept := List.countP_eq_zero.mp hcount c hc
      simpa using hkept
    rw [filter_of_not_isIgnored hignored] at hpath hresolve hsegments hdecode
    refine ⟨fun hescape => ?_, fun hdots => ?_, hignored⟩
    · have hlt := Percent.length_decode_lt hescape
      omega
    · have hcount := countP_segments_pos hdots
      omega
  · rintro ⟨hescape, hdots, hignored⟩
    have hpath : ofText name.toList = '/' :: Percent.encode Percent.inPath name.toList := by
      rw [ofText_eq, resolve_of_not_isResolved (not_isResolved_of_mem_segments hescape hdots),
        List.reverse_nil, List.nil_append, joined_segments]
    rw [filter_of_not_isIgnored hignored, hpath, List.drop_one, List.tail_cons,
      Percent.decode_encode Percent.keepsEscapes_inPath, Percent.decode_of_not_hasEscape hescape]

end SqlBuilder.UrlPath
