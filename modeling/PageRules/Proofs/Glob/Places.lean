import Mathlib
import PageRules.Glob.Match

/-!
# Places of a path

Tokens lead through a path from the front: where they lead in its first bytes does not depend on the
bytes that follow (`take_leadAll`). So a deep token at the end of a pattern leads to the end of a
path from every separator that the tokens before it lead to (`atEnd_leadAll_deepLast`).
-/

namespace PageRules.Glob

namespace Places

/-- The bytes of the path. -/
def path (s : Places) : Bytes := s.behind.map (·.1)

/-- The places among the first bytes of the path. -/
def take (n : Nat) (s : Places) : Places := ⟨s.front, s.behind.take n⟩

variable {s t : Places} {admits : UInt8 → Bool} {n : Nat}

/-! ## The path stays -/

@[simp] theorem path_start (p : Bytes) : (start p).path = p := by
  rw [path, start, List.map_map]
  exact List.map_id p

@[simp] theorem path_none (s : Places) : s.none.path = s.path := by
  rw [path, none, List.map_map]
  rfl

@[simp] theorem path_byte (admits : UInt8 → Bool) (s : Places) : (s.byte admits).path = s.path := by
  obtain ⟨here, l⟩ := s
  change (byte.go admits here l).map (·.1) = l.map (·.1)
  induction l generalizing here with
  | nil => rfl
  | cons e l ih => exact congrArg (e.1 :: ·) (ih e.2)

@[simp] theorem path_bytes (admits : UInt8 → Bool) (s : Places) :
    (s.bytes admits).path = s.path := by
  obtain ⟨here, l⟩ := s
  change (bytes.go admits here l).map (·.1) = l.map (·.1)
  induction l generalizing here with
  | nil => rfl
  | cons e l ih => exact congrArg (e.1 :: ·) (ih _)

@[simp] theorem path_segments (s : Places) : s.segments.path = s.path := by
  obtain ⟨here, l⟩ := s
  change (segments.go here l).map (·.1) = l.map (·.1)
  induction l generalizing here with
  | nil => rfl
  | cons e l ih => exact congrArg (e.1 :: ·) (ih _)

/-- Places of one path may be put together. -/
theorem path_union (h : s.path = t.path) : (s.union t).path = s.path := by
  obtain ⟨here, l⟩ := s
  obtain ⟨there, m⟩ := t
  change l.map (·.1) = m.map (·.1) at h
  change (union ⟨here, l⟩ ⟨there, m⟩).path = l.map (·.1)
  induction l generalizing m with
  | nil => rfl
  | cons e l ih =>
    cases m with
    | nil => cases h
    | cons f m => exact congrArg (e.1 :: ·) (ih m (List.cons.inj h).2)

/-! ## Nothing depends on what follows -/

@[simp] theorem take_start (n : Nat) (p : Bytes) : (start p).take n = start (p.take n) := by
  rw [take, start, start, List.map_take]

@[simp] theorem take_none (n : Nat) (s : Places) : s.none.take n = (s.take n).none := by
  rw [take, none, none, take, List.map_take]

/-- Putting places together goes byte by byte. -/
theorem take_union (n : Nat) (s t : Places) :
    (s.union t).take n = (s.take n).union (t.take n) := by
  rw [take, union, union, take, take, List.take_zipWith]

@[simp] theorem take_byte (n : Nat) (admits : UInt8 → Bool) (s : Places) :
    (s.byte admits).take n = (s.take n).byte admits := by
  obtain ⟨here, l⟩ := s
  refine congrArg (Places.mk false) ?_
  change (byte.go admits here l).take n = byte.go admits here (l.take n)
  induction l generalizing here n with
  | nil => simp [byte.go]
  | cons e l ih =>
    cases n with
    | zero => rfl
    | succ n => exact congrArg (_ :: ·) (ih n e.2)

@[simp] theorem take_bytes (n : Nat) (admits : UInt8 → Bool) (s : Places) :
    (s.bytes admits).take n = (s.take n).bytes admits := by
  obtain ⟨here, l⟩ := s
  refine congrArg (Places.mk here) ?_
  change (bytes.go admits here l).take n = bytes.go admits here (l.take n)
  induction l generalizing here n with
  | nil => simp [bytes.go]
  | cons e l ih =>
    cases n with
    | zero => rfl
    | succ n => exact congrArg (_ :: ·) (ih n _)

@[simp] theorem take_segments (n : Nat) (s : Places) :
    s.segments.take n = (s.take n).segments := by
  obtain ⟨here, l⟩ := s
  refine congrArg (Places.mk here) ?_
  change (segments.go here l).take n = segments.go here (l.take n)
  induction l generalizing here n with
  | nil => simp [segments.go]
  | cons e l ih =>
    cases n with
    | zero => rfl
    | succ n => exact congrArg (_ :: ·) (ih n _)

/-! ## The end of a path -/

@[simp] theorem atEnd_cons (here : Bool) (e : UInt8 × Bool) (l : List (UInt8 × Bool)) :
    (⟨here, e :: l⟩ : Places).atEnd = (⟨e.2, l⟩ : Places).atEnd := by
  cases l with
  | nil => rfl
  | cons f l =>
    rw [atEnd, atEnd, List.getLast?_cons_cons]
    rfl

/-- One more byte leads to the end from the end of what stands before it. -/
theorem atEnd_byte_concat (here next : Bool) (l : List (UInt8 × Bool)) (b : UInt8) :
    ((⟨here, l ++ [(b, next)]⟩ : Places).byte admits).atEnd =
      ((⟨here, l⟩ : Places).atEnd && admits b) := by
  induction l generalizing here with
  | nil => rfl
  | cons e l ih =>
    have hne : l ++ [(b, next)] ≠ [] := by simp
    obtain ⟨f, m, hm⟩ := List.exists_cons_of_ne_nil hne
    rw [List.cons_append, atEnd_cons, ← ih e.2, hm]
    simp [byte, byte.go]

/-- Any number of bytes leads from the front to the end. -/
theorem atEnd_bytes_true (l : List (UInt8 × Bool)) :
    ((⟨true, l⟩ : Places).bytes fun _ => true).atEnd = true := by
  induction l with
  | nil => rfl
  | cons e l ih =>
    have hgo : (⟨true, e :: l⟩ : Places).bytes (fun _ => true) =
        ⟨true, (e.1, true) :: ((⟨true, l⟩ : Places).bytes fun _ => true).behind⟩ := by
      simp [bytes, bytes.go]
    rw [hgo, atEnd_cons]
    exact ih

/-- A separator and any bytes lead to the end from every place in front of a separator. -/
theorem atEnd_separator (s : Places) :
    ((s.byte (· == slash)).bytes fun _ => true).atEnd = true ↔
      ∃ u next v, s.behind = u ++ (slash, next) :: v ∧ (⟨s.front, u⟩ : Places).atEnd = true := by
  obtain ⟨here, l⟩ := s
  induction l generalizing here with
  | nil =>
    refine iff_of_false (by simp [byte, byte.go, bytes, bytes.go, atEnd]) ?_
    rintro ⟨u, next, v, h, -⟩
    simp at h
  | cons e l ih =>
    obtain ⟨b, next⟩ := e
    have hstep :
        (((⟨here, (b, next) :: l⟩ : Places).byte (· == slash)).bytes fun _ => true).atEnd =
          ((⟨here && b == slash, byte.go (· == slash) next l⟩ : Places).bytes
            fun _ => true).atEnd := by
      simp [byte, byte.go, bytes, bytes.go]
    rw [hstep]
    by_cases hfirst : (here && b == slash) = true
    · rw [hfirst, atEnd_bytes_true]
      rw [Bool.and_eq_true, beq_iff_eq] at hfirst
      obtain ⟨rfl, rfl⟩ := hfirst
      exact iff_of_true rfl ⟨[], next, l, rfl, rfl⟩
    · rw [Bool.not_eq_true] at hfirst
      rw [hfirst]
      refine (ih next).trans ⟨?_, ?_⟩
      · rintro ⟨u, next', v, rfl, hu⟩
        exact ⟨(b, next) :: u, next', v, rfl, by rwa [atEnd_cons]⟩
      · rintro ⟨u, next', v, hl, hu⟩
        cases u with
        | nil =>
          cases hl
          change here = true at hu
          rw [hu] at hfirst
          cases hfirst
        | cons e u =>
          cases hl
          exact ⟨u, next', v, rfl, by rwa [atEnd_cons] at hu⟩

end Places

/-! ## Tokens -/

/-- The places behind the bytes one after another. -/
def Places.spell (w : Bytes) (s : Places) : Places := w.foldl (fun s b => s.byte (· == b)) s

theorem path_spell (w : Bytes) (s : Places) : (s.spell w).path = s.path := by
  induction w generalizing s with
  | nil => rfl
  | cons b w ih => exact (ih _).trans (Places.path_byte _ s)

theorem take_spell (n : Nat) (w : Bytes) (s : Places) :
    (s.spell w).take n = (s.take n).spell w := by
  induction w generalizing s with
  | nil => rfl
  | cons b w ih => exact (ih _).trans (congrArg (Places.spell w) (Places.take_byte n _ s))

mutual

/-- No token changes the path, only the places in it. -/
theorem path_lead (s : Places) : ∀ t : Token, (t.lead s).path = s.path
  | .literal c => path_spell _ s
  | .any | .charClass .. => Places.path_byte _ s
  | .run => Places.path_bytes _ s
  | .deepFirst => Places.path_segments s
  | .deepLast => (Places.path_bytes _ _).trans (Places.path_byte _ s)
  | .deepBetween => (Places.path_segments _).trans (Places.path_byte _ s)
  | .choice branches => by
    rw [Token.lead]
    split
    · rfl
    · exact path_leadAny s branches

theorem path_leadAll (s : Places) : ∀ ts : List Token, (leadAll ts s).path = s.path
  | [] => by rw [leadAll]
  | t :: ts => by rw [leadAll, path_leadAll _ ts, path_lead s t]

theorem path_leadAny (s : Places) : ∀ branches : List (List Token),
    (leadAny branches s).path = s.path
  | [] => by rw [leadAny, Places.path_none]
  | b :: bs => by
    rw [leadAny]
    split
    · exact path_leadAny s bs
    · rw [Places.path_union ((path_leadAll s b).trans (path_leadAny s bs).symm), path_leadAll s b]

end

mutual

/-- Where a token leads in the first bytes depends on these bytes alone. -/
theorem take_lead (n : Nat) (s : Places) : ∀ t : Token, (t.lead s).take n = t.lead (s.take n)
  | .literal c => take_spell n _ s
  | .any | .charClass .. => Places.take_byte n _ s
  | .run => Places.take_bytes n _ s
  | .deepFirst => Places.take_segments n s
  | .deepLast => (Places.take_bytes n _ _).trans (by rw [Places.take_byte, Token.lead])
  | .deepBetween => (Places.take_segments n _).trans (by rw [Places.take_byte, Token.lead])
  | .choice branches => by
    rw [Token.lead, Token.lead]
    split
    · rfl
    · exact take_leadAny n s branches

/-- Where tokens lead among the first bytes does not depend on the bytes that follow. -/
theorem take_leadAll (n : Nat) (s : Places) : ∀ ts : List Token,
    (leadAll ts s).take n = leadAll ts (s.take n)
  | [] => by rw [leadAll, leadAll]
  | t :: ts => by rw [leadAll, leadAll, take_leadAll n _ ts, take_lead n s t]

theorem take_leadAny (n : Nat) (s : Places) : ∀ branches : List (List Token),
    (leadAny branches s).take n = leadAny branches (s.take n)
  | [] => by rw [leadAny, leadAny, Places.take_none]
  | b :: bs => by
    rw [leadAny, leadAny]
    split
    · exact take_leadAny n s bs
    · rw [Places.take_union, take_leadAll n s b, take_leadAny n s bs]

end

/-- Tokens lead on from where the tokens before them lead. -/
theorem leadAll_append (ts us : List Token) (s : Places) :
    leadAll (ts ++ us) s = leadAll us (leadAll ts s) := by
  induction ts generalizing s with
  | nil => rw [List.nil_append, leadAll]
  | cons t ts ih => rw [List.cons_append, leadAll, leadAll, ih]

/-- But for a single deep token, which matches everything, a path matches when the tokens lead to
its end. -/
theorem matchesTokens_of_ne {ts : List Token} (h : ts ≠ [.deepFirst]) (path : Bytes) :
    matchesTokens ts path = (leadAll ts (.start path)).atEnd := by
  unfold matchesTokens
  split
  · exact absurd rfl h
  · rfl

/-- A deep token at the end leads from every separator that the tokens before it lead to. -/
theorem atEnd_leadAll_deepLast (ts : List Token) (path : Bytes) :
    (leadAll (ts ++ [.deepLast]) (.start path)).atEnd = true ↔
      ∃ q r, path = q ++ slash :: r ∧ (leadAll ts (.start q)).atEnd = true := by
  have hlead (s : Places) :
      leadAll [.deepLast] s = (s.byte (· == slash)).bytes fun _ => true := by
    rw [leadAll, leadAll, Token.lead]
  have hpath : (leadAll ts (.start path)).path = path :=
    (path_leadAll _ ts).trans (Places.path_start path)
  have htake (n : Nat) : (leadAll ts (.start path)).take n = leadAll ts (.start (path.take n)) := by
    rw [take_leadAll, Places.take_start]
  rw [leadAll_append, hlead, Places.atEnd_separator]
  generalize hs : leadAll ts (.start path) = s at hpath htake
  constructor
  · rintro ⟨u, next, v, hu, hend⟩
    have hfront := htake u.length
    rw [Places.take, hu, List.take_left] at hfront
    rw [Places.path, hu, List.map_append, List.map_cons] at hpath
    refine ⟨path.take u.length, v.map (·.1), ?_, ?_⟩
    · rw [← hpath, ← List.length_map (·.1), List.take_left]
    · rw [← hfront]
      exact hend
  · rintro ⟨q, r, rfl, hend⟩
    have hfront := htake q.length
    rw [List.take_left] at hfront
    obtain ⟨u, w, hbehind, hu, hw⟩ := List.map_eq_append_iff.mp hpath
    obtain ⟨e, v, rfl, he, -⟩ := List.map_eq_cons_iff.mp hw
    have hlength : q.length = u.length := by rw [← hu, List.length_map]
    obtain ⟨b, next⟩ := e
    cases (he : b = slash)
    refine ⟨u, next, v, hbehind, ?_⟩
    rw [Places.take, hbehind, hlength, List.take_left] at hfront
    rw [hfront]
    exact hend

/-! ## Literals -/

/-- Literals lead through the bytes that they spell. -/
theorem leadAll_literals (p : Text) (s : Places) :
    leadAll (p.map .literal) s = s.spell (Text.bytes p) := by
  induction p generalizing s with
  | nil =>
    rw [List.map_nil, leadAll]
    rfl
  | cons c p ih =>
    rw [List.map_cons, leadAll, ih]
    exact List.foldl_append.symm

/-- Bytes lead to the end of themselves alone, by induction on them from the end. -/
theorem atEnd_spell (w path : Bytes) :
    ((Places.start path).spell w).atEnd = true ↔ path = w := by
  induction w using List.reverseRecOn generalizing path with
  | nil =>
    rcases List.eq_nil_or_concat' path with rfl | ⟨q, c, rfl⟩
    · exact iff_of_true rfl rfl
    · exact iff_of_false (by simp [Places.spell, Places.start, Places.atEnd]) (by simp)
  | append_singleton w b ih =>
    have hpath : ((Places.start path).spell w).path = path :=
      (path_spell w _).trans (Places.path_start path)
    have htake (n : Nat) :
        ((Places.start path).spell w).take n = (Places.start (path.take n)).spell w := by
      rw [take_spell, Places.take_start]
    rw [Places.spell, List.foldl_append, List.foldl_cons, List.foldl_nil, ← Places.spell]
    generalize (Places.start path).spell w = s at hpath htake
    rcases List.eq_nil_or_concat' path with rfl | ⟨q, c, rfl⟩
    · rw [Places.path, List.map_eq_nil_iff] at hpath
      refine iff_of_false ?_ (by simp)
      rw [Places.byte, hpath]
      exact Bool.false_ne_true
    · obtain ⟨u, v, hbehind, rfl, hv⟩ := List.map_eq_append_iff.mp hpath
      obtain ⟨e, rfl, rfl⟩ := List.map_eq_singleton_iff.mp hv
      have hfront := htake u.length
      rw [Places.take, hbehind, List.take_left, List.take_left' (List.length_map _)] at hfront
      have hs : s = ⟨s.front, u ++ [(e.1, e.2)]⟩ := by rw [← hbehind]
      rw [hs, Places.atEnd_byte_concat, hfront, Bool.and_eq_true, ih, beq_iff_eq,
        List.append_singleton_inj]

end PageRules.Glob
