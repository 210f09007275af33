import SqlOperator.Net.Url
import SqlOperator.Proofs.Net.UrlParts
import SqlOperator.Proofs.Text.PercentDecoding

/-!
# Names in paths

The path of a URL is set from a text that is read as a path, not taken as a name: line breaks and
tabs are dropped, one slash in front is not counted, a text that starts with `?` or `#` has no
path, dot segments are resolved, and escapes are kept. A name that has none of this comes back
from the path. Every other name does not.

## Implementation notes

None of these steps makes the name longer, in bytes of what is read from the path, and each of
them makes it shorter if it has anything to do. So only a name that all of them leave alone comes
back.
-/

namespace SqlOperator

open Text Text.Percent

namespace Url

/-- The name in a path, which is behind the slash that starts the path. -/
def nameIn : List Char → List Char
  | '/' :: name => name
  | path => path

/-- A name that is not read as anything but a name. -/
structure IsPathName (name : List Char) : Prop where
  kept : ∀ c ∈ name, isDropped c = false
  opening : ∀ c ∈ name.head?, endsAuthority c = false
  undotted : ∀ segment ∈ fields '/' name, segment ≠ ['.'] ∧ segment ≠ ['.', '.']
  unescaped : hasEscape name = false

/-- The characters are checked one by one, for this decides whether it is a name. -/
theorem isPathName_iff {name : List Char} : IsPathName name ↔
    name.all (fun c => !isDropped c) = true ∧ name.head?.all (fun c => !endsAuthority c) = true ∧
      (∀ segment ∈ fields '/' name, segment ≠ ['.'] ∧ segment ≠ ['.', '.']) ∧
      hasEscape name = false := by
  simp only [List.all_eq_true, Option.all_eq_true, Bool.not_eq_eq_eq_not, Bool.not_true]
  exact ⟨fun h => ⟨h.kept, h.opening, h.undotted, h.unescaped⟩,
    fun ⟨kept, opening, undotted, unescaped⟩ => ⟨kept, opening, undotted, unescaped⟩⟩

instance : DecidablePred IsPathName := fun _ => decidable_of_iff _ isPathName_iff.symm

/-! ### Segments -/

variable {segment : List Char} {done segments : List (List Char)}

/-- The number of bytes that are read from segments, each with its slash. -/
def size : List (List Char) → Nat
  | [] => 0
  | segment :: segments => (decode segment).length + 1 + size segments

@[simp] theorem size_cons (segment : List Char) (segments : List (List Char)) :
    size (segment :: segments) = (decode segment).length + 1 + size segments := rfl

theorem size_append (xs ys : List (List Char)) : size (xs ++ ys) = size xs + size ys := by
  induction xs with
  | nil => exact (Nat.zero_add _).symm
  | cons segment xs ih =>
    rw [List.cons_append, size_cons, size_cons, ih]
    exact (Nat.add_assoc _ _ _).symm

theorem size_reverse (segments : List (List Char)) : size segments.reverse = size segments := by
  induction segments with
  | nil => rfl
  | cons segment segments ih =>
    have hone : size [segment] = (decode segment).length + 1 := rfl
    rw [List.reverse_cons, size_append, ih, hone, size_cons, Nat.add_comm]

theorem length_decode_flatMap (segments : List (List Char)) :
    (decode (segments.flatMap ('/' :: ·))).length = size segments := by
  induction segments with
  | nil => rfl
  | cons segment more ih =>
    have hslash : ∀ rest, decode ('/' :: rest) = String.utf8EncodeChar '/' ++ decode rest :=
      fun rest => decode_cons (startsEscape_of_ne (by decide) rest)
    have hsegment : decode ('/' :: segment ++ more.flatMap ('/' :: ·)) =
        String.utf8EncodeChar '/' ++ decode segment ++ decode (more.flatMap ('/' :: ·)) := by
      cases more with
      | nil => simp [hslash, decode]
      | cons next more =>
        rw [List.flatMap_cons, List.cons_append, List.cons_append, hslash,
          decode_append_cons rfl, List.append_assoc]
    have hone : (String.utf8EncodeChar '/').length = 1 := by decide
    rw [List.flatMap_cons, hsegment, List.length_append, List.length_append, ih, size_cons, hone]
    omega

/-- A character that is not in ASCII is its own lower case. -/
theorem toLower_of_le {c : Char} (h : 128 ≤ c.toNat) : c.toLower = c := by
  unfold Char.toLower
  refine dif_neg fun hupper => ?_
  have hz : c.toNat ≤ 90 := UInt32.le_iff_toNat_le.mp hupper.2
  omega

/-- A character whose lower case is in ASCII is in ASCII. -/
theorem toNat_lt_of_toLower {c : Char} (h : c.toLower.toNat < 128) : c.toNat < 128 := by
  refine Nat.lt_of_not_le fun hle => ?_
  rw [toLower_of_le hle] at h
  omega

theorem of_toLower_eq {P : Char → Prop} {c d : Char} (h : c.toLower = d) (hd : d.toNat < 128)
    (hP : ∀ n < 128, (Char.ofNat n).toLower = d → P (Char.ofNat n)) : P c := by
  subst h
  exact forall_ascii (P := fun e => e.toLower = c.toLower → P e) hP (toNat_lt_of_toLower hd) rfl

theorem exists_of_isDot (h : isDot segment = true) :
    segment = ['.'] ∨ ∃ low, segment = ['%', '2', low] ∧ Hex.value? low = some 14 := by
  rcases Bool.or_eq_true_iff.mp h with hdot | hescape
  · exact .inl (of_decide_eq_true hdot)
  · obtain ⟨percent, rest, rfl, hpercent, hrest⟩ :=
      List.map_eq_cons_iff.mp (of_decide_eq_true hescape)
    obtain ⟨high, rest, rfl, hhigh, hrest⟩ := List.map_eq_cons_iff.mp hrest
    obtain ⟨low, rest, rfl, hlow, hrest⟩ := List.map_eq_cons_iff.mp hrest
    obtain rfl := List.map_eq_nil_iff.mp hrest
    have hp : percent = '%' := of_toLower_eq (P := (· = '%')) hpercent (by decide) (by decide)
    have hh : high = '2' := of_toLower_eq (P := (· = '2')) hhigh (by decide) (by decide)
    have hl : Hex.value? low = some 14 :=
      of_toLower_eq (P := fun c => Hex.value? c = some 14) hlow (by decide) (by decide)
    exact .inr ⟨low, by rw [hp, hh], hl⟩

/-- Whatever a dot is written as, it is read as a dot. -/
theorem decode_of_isDot (h : isDot segment = true) (rest : List Char) :
    decode (segment ++ rest) = utf8 ['.'] ++ decode rest := by
  rcases exists_of_isDot h with rfl | ⟨low, rfl, hlow⟩
  · exact decode_cons (startsEscape_of_ne (by decide) rest)
  · exact decode_escape (h := 2) rfl hlow rest

theorem decode_of_isSingleDot (h : isSingleDot segment = true) : decode segment = utf8 ['.'] := by
  have hdot := decode_of_isDot h []
  rwa [List.append_nil] at hdot

/-- All spellings of the segment that goes up are decoded to two dots. -/
theorem decode_of_isDoubleDot (h : isDoubleDot segment = true) :
    decode segment = utf8 ['.', '.'] := by
  unfold isDoubleDot at h
  split at h
  · rename_i rest
    have hdot : isDot ['.'] = true := rfl
    exact (decode_of_isDot hdot rest).trans
      (congrArg (utf8 ['.'] ++ ·) (decode_of_isSingleDot h))
  · rename_i a b c rest _
    obtain ⟨hfirst, hsecond⟩ := Bool.and_eq_true_iff.mp h
    exact (decode_of_isDot hfirst rest).trans
      (congrArg (utf8 ['.'] ++ ·) (decode_of_isSingleDot hsecond))
  · cases h

/-- A segment of one or two dots. -/
def IsDots (segment : List Char) : Prop := isSingleDot segment = true ∨ isDoubleDot segment = true

theorem length_decode_pos_of_isDots (h : IsDots segment) : 0 < (decode segment).length := by
  rcases h with h | h
  · rw [decode_of_isSingleDot h]
    decide
  · rw [decode_of_isDoubleDot h]
    decide

/-! ### Resolving dot segments -/

/-- Segments without dot segments stay as they are. -/
theorem resolve_of_undotted (h : ∀ segment ∈ segments, ¬IsDots segment) :
    resolve done segments = done.reverse ++ segments := by
  have hnot : ∀ segment ∈ segments, isSingleDot segment = false ∧ isDoubleDot segment = false :=
    fun segment hs => by simpa [IsDots] using h segment hs
  clear h
  fun_induction resolve done segments with
  | case1 done => simp
  | case2 done last hdouble => simp [hnot last List.mem_cons_self] at hdouble
  | case3 done last _ hsingle => simp [hnot last List.mem_cons_self] at hsingle
  | case4 done last => rfl
  | case5 done first more _ hdouble => simp [hnot first List.mem_cons_self] at hdouble
  | case6 done first more _ _ hsingle => simp [hnot first List.mem_cons_self] at hsingle
  | case7 done first more _ _ _ ih =>
    rw [ih fun segment hs => hnot segment (List.mem_cons_of_mem _ hs)]
    simp

theorem size_goUp_le (done : List (List Char)) : size (goUp done) ≤ size done := by
  cases done with
  | nil => exact Nat.le_refl _
  | cons segment rest =>
    simp only [goUp]
    split
    · exact Nat.le_refl _
    · rw [size_cons]
      omega

/-- Resolving makes a path no longer. -/
theorem size_resolve_le (done segments : List (List Char)) :
    size (resolve done segments) ≤ size done + size segments := by
  have hempty : size [[]] = 1 := rfl
  have hup := size_goUp_le
  fun_induction resolve done segments with
  | case1 done => rw [size_reverse]; omega
  | case2 done last =>
    rw [size_append, size_reverse, hempty, size_cons]
    have := hup done
    omega
  | case3 done last => rw [size_append, size_reverse, hempty, size_cons]; omega
  | case4 done last => rw [size_append, size_reverse]
  | case5 done first more _ _ ih =>
    rw [size_cons]
    have := hup done
    omega
  | case6 done first more _ _ _ ih => rw [size_cons]; omega
  | case7 done first more _ _ _ ih =>
    rw [size_cons] at ih ⊢
    omega

/-- Dot segments do not stay. -/
theorem size_resolve_lt (h : ∃ segment ∈ segments, IsDots segment) :
    size (resolve done segments) < size done + size segments := by
  have hempty : size [[]] = 1 := rfl
  have hup := size_goUp_le
  have hdouble : ∀ {segment}, isDoubleDot segment = true → 0 < (decode segment).length :=
    fun hd => length_decode_pos_of_isDots (.inr hd)
  have hsingle : ∀ {segment}, isSingleDot segment = true → 0 < (decode segment).length :=
    fun hd => length_decode_pos_of_isDots (.inl hd)
  fun_induction resolve done segments with
  | case1 done => simp at h
  | case2 done last hd =>
    rw [size_append, size_reverse, hempty, size_cons]
    have := hup done
    have := hdouble hd
    omega
  | case3 done last _ hd =>
    rw [size_append, size_reverse, hempty, size_cons]
    have := hsingle hd
    omega
  | case4 done last hnd hns => simp [IsDots, hnd, hns] at h
  | case5 done first more _ hd =>
    rw [size_cons]
    have := size_resolve_le (goUp done) more
    have := hup done
    omega
  | case6 done first more _ _ hd =>
    rw [size_cons]
    have := size_resolve_le done more
    omega
  | case7 done first more _ hnd hns ih =>
    have hmore : ∃ segment ∈ more, IsDots segment := by
      obtain ⟨segment, hs, hdots⟩ := h
      rcases List.mem_cons.mp hs with rfl | hs
      · exact absurd hdots (by simp [IsDots, hnd, hns])
      · exact ⟨segment, hs, hdots⟩
    have := ih hmore
    rw [size_cons] at this ⊢
    omega

/-! ### Names that come back -/

variable {name : List Char}

/-- The segments of a name as they are written. -/
def writtenSegments (name : List Char) : List (List Char) :=
  (fields '/' name).map (encode isPathEscaped)

theorem flatMap_writtenSegments (name : List Char) :
    (writtenSegments name).flatMap ('/' :: ·) = '/' :: encode isPathEscaped name := by
  have hslash : ∀ cs, encode isPathEscaped ('/' :: cs) = '/' :: encode isPathEscaped cs :=
    encode_cons_of_not_escaped (by decide)
  have hfields : ∀ segments : List (List Char),
      (segments.map (encode isPathEscaped)).flatMap ('/' :: ·) =
        encode isPathEscaped (segments.flatMap ('/' :: ·)) := by
    intro segments
    induction segments with
    | nil => rfl
    | cons segment more ih =>
      rw [List.map_cons, List.flatMap_cons, List.flatMap_cons, encode_append, hslash, ih]
  rw [writtenSegments, hfields, flatMap_fields, hslash]

theorem size_writtenSegments (name : List Char) :
    size (writtenSegments name) = (decode name).length + 1 := by
  have hslash := decode_cons (startsEscape_of_ne (c := '/') (by decide)
    (encode isPathEscaped name))
  rw [← length_decode_flatMap, flatMap_writtenSegments, hslash, List.length_append,
    sparesEscapes_isPathEscaped.decode_encode, Nat.add_comm]
  rfl

/-- A segment is written as dots only if it is one or two dots, or has an escape. -/
theorem eq_dots_of_isDots {segment : List Char} (hescape : hasEscape segment = false)
    (h : IsDots (encode isPathEscaped segment)) : segment = ['.'] ∨ segment = ['.', '.'] := by
  have hdecode : decode (encode isPathEscaped segment) = utf8 segment := by
    rw [sparesEscapes_isPathEscaped.decode_encode, decode_eq_utf8 hescape]
  refine h.imp (fun hs => ?_) (fun hd => ?_)
  · exact utf8_injective (hdecode.symm.trans (decode_of_isSingleDot hs))
  · exact utf8_injective (hdecode.symm.trans (decode_of_isDoubleDot hd))

theorem hasEscape_of_mem_fields {segment : List Char} (hescape : hasEscape name = false)
    (h : segment ∈ fields '/' name) : hasEscape segment = false := by
  obtain ⟨before, after, hfields⟩ := List.append_of_mem h
  have hinfix : segment <:+: '/' :: name := by
    rw [← flatMap_fields '/' name, hfields, List.flatMap_append, List.flatMap_cons]
    exact ⟨before.flatMap ('/' :: ·) ++ ['/'], after.flatMap ('/' :: ·), by simp⟩
  refine Bool.eq_false_iff.mpr fun hs => ?_
  have hname := hasEscape_of_infix hinfix hs
  rw [hasEscape, startsEscape_of_ne (by decide), Bool.false_or, hescape] at hname
  cases hname

/-- What is read of a text that is not empty and does not start like a query or fragment. -/
theorem readPath_cons {text rest : List Char} {c : Char}
    (h : text.filter (fun c => !isDropped c) = c :: rest) (hquery : c ≠ '?') (hfragment : c ≠ '#') :
    readPath text = (resolve [] (writtenSegments (if c = '/' then rest else c :: rest))).flatMap
      ('/' :: ·) := by
  rw [readPath, h]
  split
  · contradiction
  · rename_i heq
    exact absurd (List.cons.inj heq).1 hquery
  · rename_i heq
    exact absurd (List.cons.inj heq).1 hfragment
  · rename_i heq
    obtain ⟨rfl, rfl⟩ := List.cons.inj heq
    rfl

/-- A name that is nothing but a name makes the path, with the characters encoded that have to
be. -/
theorem readPath_of_isPathName (h : IsPathName name) (hne : name ≠ []) :
    readPath name = '/' :: encode isPathEscaped name := by
  obtain ⟨c, rest, rfl⟩ := List.exists_cons_of_ne_nil hne
  have hclean : (c :: rest).filter (fun c => !isDropped c) = c :: rest :=
    List.filter_eq_self.mpr fun d hd => by rw [h.kept d hd]; rfl
  have hopening : c ≠ '/' ∧ c ≠ '?' ∧ c ≠ '#' := by
    simpa [endsAuthority, not_or, and_assoc] using h.opening c rfl
  have hundotted : ∀ segment ∈ writtenSegments (c :: rest), ¬IsDots segment := by
    intro written hw hdots
    obtain ⟨segment, hs, rfl⟩ := List.mem_map.mp hw
    obtain ⟨hone, htwo⟩ := h.undotted segment hs
    rcases eq_dots_of_isDots (hasEscape_of_mem_fields h.unescaped hs) hdots with he | he
    · exact hone he
    · exact htwo he
  rw [readPath_cons hclean hopening.2.1 hopening.2.2, if_neg hopening.1,
    resolve_of_undotted hundotted, List.reverse_nil, List.nil_append, flatMap_writtenSegments]

theorem decode_nameIn_of_isPathName (h : IsPathName name) :
    decode (nameIn (readPath name)) = utf8 name := by
  by_cases hne : name = []
  · subst hne
    rfl
  · rw [readPath_of_isPathName h hne, nameIn, sparesEscapes_isPathEscaped.decode_encode,
      decode_eq_utf8 h.unescaped]

/-- If what is read from the path has as many bytes as the name, no step on the way to the path
had anything to do. -/
theorem isPathName_of_length {c : Char} {rest : List Char}
    (hclean : name.filter (fun c => !isDropped c) = c :: rest)
    (hquery : c ≠ '?') (hfragment : c ≠ '#')
    (h : (utf8 name).length + 1 ≤ (decode (readPath name)).length) : IsPathName name := by
  rw [readPath_cons hclean hquery hfragment, length_decode_flatMap] at h
  have hdropped := length_utf8_filter_le (fun c => !isDropped c) name
  have hfirst := length_utf8_pos c []
  have hresolve := size_resolve_le [] (writtenSegments (if c = '/' then rest else c :: rest))
  have hempty : size [] = 0 := rfl
  rw [size_writtenSegments] at hresolve
  rw [utf8_cons, utf8_nil, List.append_nil] at hfirst
  rw [hclean, utf8_cons, List.length_append] at hdropped
  have hslash : c ≠ '/' := by
    intro hc
    rw [if_pos hc] at h hresolve
    have hdecode := length_decode_le rest
    omega
  rw [if_neg hslash] at h hresolve
  have hutf8 : (utf8 (c :: rest)).length =
      (String.utf8EncodeChar c).length + (utf8 rest).length := by
    rw [utf8_cons, List.length_append]
  have hdecode := length_decode_le (c :: rest)
  have hunescaped : hasEscape (c :: rest) = false := by
    refine Bool.eq_false_iff.mpr fun hescape => ?_
    have hlt := length_decode_lt hescape
    omega
  have hundotted : ¬∃ segment ∈ writtenSegments (c :: rest), IsDots segment := by
    intro hdots
    have hlt : size (resolve [] (writtenSegments (c :: rest))) <
        size [] + size (writtenSegments (c :: rest)) := size_resolve_lt hdots
    rw [size_writtenSegments] at hlt
    omega
  have hname : name = c :: rest := by
    rw [← hclean, filter_eq_self_of_length_utf8]
    rw [hclean]
    omega
  have hwritten : ∀ segment ∈ fields '/' name, ¬IsDots (encode isPathEscaped segment) :=
    fun segment hs hdots => hundotted ⟨_, List.mem_map.mpr ⟨segment, hname ▸ hs, rfl⟩, hdots⟩
  exact {
    kept := fun d hd => by
      have hkeep := List.filter_eq_self.mp (hclean.trans hname.symm) d hd
      simpa using hkeep
    opening := fun d hd => by
      rw [hname, List.head?_cons, Option.mem_some_iff] at hd
      simp [endsAuthority, ← hd, hslash, hquery, hfragment]
    undotted := fun segment hs => by
      refine ⟨fun hone => hwritten segment hs ?_, fun htwo => hwritten segment hs ?_⟩
      · exact .inl (hone ▸ rfl)
      · exact .inr (htwo ▸ rfl)
    unescaped := hname ▸ hunescaped }

/-- A name comes back from the path that it makes exactly if it is nothing but a name. -/
theorem decode_nameIn_readPath_iff :
    decode (nameIn (readPath name)) = utf8 name ↔ IsPathName name := by
  refine ⟨fun h => ?_, decode_nameIn_of_isPathName⟩
  by_cases hne : name = []
  · subst hne
    decide
  obtain ⟨first, more, rfl⟩ := List.exists_cons_of_ne_nil hne
  have hpos := length_utf8_pos first more
  have hpath : readPath (first :: more) ≠ [] := by
    intro hnil
    rw [hnil] at h
    rw [← h] at hpos
    exact absurd hpos (by decide)
  have hlength : (utf8 (first :: more)).length + 1 ≤
      (decode (readPath (first :: more))).length := by
    obtain ⟨path, hslash⟩ := (isPath_readPath (first :: more)).resolve_left hpath
    rw [hslash] at h ⊢
    rw [decode_cons (startsEscape_of_ne (by decide) path), ← h, List.length_append, Nat.add_comm]
    exact Nat.le_refl _
  cases hclean : (first :: more).filter (fun c => !isDropped c) with
  | nil =>
    refine absurd ?_ hpath
    rw [readPath, hclean]
  | cons c rest =>
    have hquery : c ≠ '?' := by
      rintro rfl
      refine hpath ?_
      rw [readPath, hclean]
      rfl
    have hfragment : c ≠ '#' := by
      rintro rfl
      refine hpath ?_
      rw [readPath, hclean]
      rfl
    exact isPathName_of_length hclean hquery hfragment hlength

end Url

end SqlOperator
