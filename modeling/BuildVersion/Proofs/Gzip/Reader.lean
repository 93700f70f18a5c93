import BuildVersion.Proofs.Gzip.Portion

namespace BuildVersion.Gzip.Reader

structure Reads (content : List UInt8) (reader : Reader) : Prop where
  chain : reader.chain.Whole reader.size
  bytes_chain : reader.chain.bytes = content
  content_eq : reader.content = content.toArray
  flow : reader.flow.Whole reader.size
  passed_add : reader.passed + reader.flow.remaining = content.length
  unread_le : reader.unread ≤ reader.passed

variable {content : List UInt8} {reader : Reader}

theorem reads_ofBytes {file : List UInt8} (h : Holds 0 file content) :
    (ofBytes file).Reads content where
  chain := h.whole_ofBytes.1
  bytes_chain := h.whole_ofBytes.2
  content_eq := congrArg List.toArray h.whole_ofBytes.2
  flow := ⟨by simp [ofBytes, Flow.ofChain], h.whole_ofBytes.1⟩
  passed_add := by
    have hbytes := congrArg List.length h.whole_ofBytes.2
    simpa [ofBytes, Flow.ofChain, Flow.remaining] using hbytes
  unread_le := Nat.le_refl 0

namespace Reads

theorem passed_le (h : reader.Reads content) : reader.passed ≤ content.length := by
  have hpassed := h.passed_add
  omega

theorem place_le (h : reader.Reads content) : reader.place ≤ content.length := by
  have hpassed := h.passed_le
  rw [place]
  omega

theorem slice_eq (h : reader.Reads content) (start n : Nat) :
    reader.slice start (start + n) = (content.drop start).take n := by
  rw [slice, h.content_eq]
  simp [List.extract_eq_take_drop]

end Reads

/-- A reader that keeps no byte that is still to be read, at a place. -/
structure Fresh (content : List UInt8) (place held : Nat) (reader : Reader) : Prop where
  reads : reader.Reads content
  unread_eq : reader.unread = 0
  passed_eq : reader.passed = place
  held_eq : reader.held = held

theorem Reads.fresh (h : reader.Reads content) :
    Fresh content reader.passed 0 { reader with held := 0, unread := 0 } :=
  ⟨⟨h.chain, h.bytes_chain, h.content_eq, h.flow, h.passed_add, Nat.zero_le _⟩, rfl, rfl, rfl⟩

theorem Reads.fresh_start (h : reader.Reads content) :
    Fresh content 0 0
      { reader with held := 0, unread := 0, flow := Flow.ofChain reader.chain, passed := 0 } where
  reads :=
    { chain := h.chain
      bytes_chain := h.bytes_chain
      content_eq := h.content_eq
      flow := ⟨by simp [Flow.ofChain], h.chain⟩
      passed_add := by simp [Flow.ofChain, Flow.remaining, h.bytes_chain]
      unread_le := Nat.le_refl 0 }
  unread_eq := rfl
  passed_eq := rfl
  held_eq := rfl

namespace Fresh

variable {place held : Nat}

theorem place_eq (h : reader.Fresh content place held) : reader.place = place := by
  rw [Reader.place, h.unread_eq, h.passed_eq, Nat.sub_zero]

theorem le_length (h : reader.Fresh content place held) : place ≤ content.length := by
  rw [← h.passed_eq]
  exact h.reads.passed_le

theorem exists_takePortion (h : reader.Fresh content place held) {limit : Nat}
    (hlimit : 0 < limit) : ∃ n after, reader.takePortion limit = .ok (n, after) ∧ after.Fresh content (place + n) held ∧
      n ≤ limit ∧ (n = 0 → place = content.length) := by
  obtain ⟨n, flow, hread, hleads⟩ := Flow.exists_read hlimit h.reads.flow
  have hpassed := h.reads.passed_add
  have hremaining := hleads.remaining_eq
  have hplace := h.passed_eq
  have hunread := h.unread_eq
  refine ⟨n, { reader with flow := flow, passed := reader.passed + n }, ?_,
    ⟨⟨h.reads.chain, h.reads.bytes_chain, h.reads.content_eq, hleads.whole, ?_, ?_⟩, hunread, ?_,
      h.held_eq⟩, hleads.le_limit, ?_⟩
  · rw [takePortion, hread]
  · dsimp only
    omega
  · dsimp only
    omega
  · dsimp only
    omega
  · intro hn
    have hend := hleads.progress hn
    omega

theorem takePortion_ne_error (h : reader.Fresh content place held) {limit : Nat}
    (hlimit : 0 < limit) (breach : Breach) : reader.takePortion limit ≠ .error breach := by
  obtain ⟨n, after, hok, -⟩ := h.exists_takePortion hlimit
  rw [hok]
  simp

theorem of_takePortion (h : reader.Fresh content place held) {limit n : Nat} {after : Reader}
    (hlimit : 0 < limit) (htake : reader.takePortion limit = .ok (n, after)) :
    after.Fresh content (place + n) held ∧ n ≤ limit ∧ (n = 0 → place = content.length) := by
  obtain ⟨m, reached, hok, hreached⟩ := h.exists_takePortion hlimit
  rw [htake] at hok
  obtain ⟨rfl, rfl⟩ := Prod.mk.inj (Except.ok.inj hok)
  exact hreached

/-- The bytes of a portion are kept. -/
theorem hold (h : reader.Fresh content place held) (n : Nat) :
    Fresh content place (held + n) { reader with held := reader.held + n } :=
  ⟨⟨h.reads.chain, h.reads.bytes_chain, h.reads.content_eq, h.reads.flow, h.reads.passed_add,
    h.reads.unread_le⟩, h.unread_eq, h.passed_eq, congrArg (· + n) h.held_eq⟩

theorem exists_passBuffers (h : reader.Fresh content place held) (missing : Nat) :
    ∃ rest ended after, reader.passBuffers missing = .ok (rest, ended, after) ∧
      after.Fresh content (place + (missing - rest)) held ∧ rest ≤ missing ∧
      (ended = true → place + (missing - rest) = content.length) ∧
      (ended = false → rest < bufferSize) := by
  have hlimit {missing : Nat} (hmany : ¬ missing < bufferSize) :
      0 < missing / bufferSize * bufferSize := by
    simp only [bufferSize] at hmany ⊢
    omega
  fun_induction passBuffers missing reader generalizing place with
  | case1 missing reader hfew =>
      refine ⟨missing, false, reader, rfl, ?_, Nat.le_refl _, by simp, fun _ => hfew⟩
      rw [Nat.sub_self, Nat.add_zero]
      exact h
  | case2 missing reader hmany breach htake =>
      exact absurd htake (h.takePortion_ne_error (hlimit hmany) breach)
  | case3 missing reader hmany after htake =>
      obtain ⟨hreached, -, hend⟩ := h.of_takePortion (hlimit hmany) htake
      refine ⟨missing, true, after, rfl, ?_, Nat.le_refl _, ?_, by simp⟩
      · rw [Nat.sub_self]
        exact hreached
      · intro
        rw [Nat.sub_self]
        exact hend rfl
  | case4 missing reader hmany n after htake ih =>
      obtain ⟨hreached, hle, -⟩ := h.of_takePortion (hlimit hmany) htake
      obtain ⟨rest, ended, last, hpass, hlast, hrest, hends, hfew⟩ := ih hreached
      have hbound := Nat.div_mul_le_self missing bufferSize
      have hplace : place + (n + 1) + (missing - (n + 1) - rest) = place + (missing - rest) := by
        simp only [Nat.succ_eq_add_one] at hle
        omega
      rw [Nat.succ_eq_add_one, hplace] at hlast hends
      exact ⟨rest, ended, last, hpass, hlast, by omega, hends, hfew⟩

/-- So few bytes are missing that the buffer is never full before the last of them. -/
theorem exists_fillBuffer {missing : Nat} (h : reader.Fresh content place held)
    (hfew : held + missing < bufferSize) :
    ∃ rest after, reader.fillBuffer missing = .ok (rest, after) ∧ after.Reads content ∧
      after.place = place + (missing - rest) ∧ rest ≤ missing ∧
      (rest ≠ 0 → place + (missing - rest) = content.length) := by
  have hlimit {reader : Reader} {place held missing : Nat} (h : reader.Fresh content place held)
      (hfew : held + missing < bufferSize) : 0 < bufferSize - reader.held := by
    rw [h.held_eq]
    omega
  fun_induction fillBuffer missing reader generalizing place held with
  | case1 reader => exact ⟨0, reader, rfl, h.reads, by rw [h.place_eq]; rfl, Nat.le_refl 0, by simp⟩
  | case2 missing reader hmissing breach htake =>
      exact absurd htake (h.takePortion_ne_error (hlimit h hfew) breach)
  | case3 missing reader hmissing after htake =>
      obtain ⟨hreached, -, hend⟩ := h.of_takePortion (hlimit h hfew) htake
      refine ⟨missing, after, rfl, hreached.reads, ?_, Nat.le_refl _, ?_⟩
      · rw [hreached.place_eq, Nat.sub_self]
      · intro
        rw [Nat.sub_self]
        exact hend rfl
  | case4 missing reader hmissing n after htake last =>
      next hlast =>
      obtain ⟨hreached, hle, -⟩ := h.of_takePortion (hlimit h hfew) htake
      have hpassed := hreached.passed_eq
      refine ⟨0, _, rfl, ⟨hreached.reads.chain, hreached.reads.bytes_chain,
        hreached.reads.content_eq, hreached.reads.flow, hreached.reads.passed_add, ?_⟩, ?_,
        Nat.zero_le _, by simp⟩
      · show n + 1 - missing ≤ after.passed
        omega
      · show after.passed - (n + 1 - missing) = place + (missing - 0)
        omega
  | case5 missing reader hmissing n after htake last hlast =>
      next ih =>
      obtain ⟨hreached, hle, -⟩ := h.of_takePortion (hlimit h hfew) htake
      obtain ⟨rest, final, hfill, hfinal, hplace, hrest, hends⟩ :=
        ih (hreached.hold (n + 1)) (by omega)
      have hsum : place + (n + 1) + (missing - (n + 1) - rest) = place + (missing - rest) := by
        omega
      rw [hsum] at hplace hends
      exact ⟨rest, final, hfill, hfinal, hplace, by omega, hends⟩

theorem exists_passOver (h : reader.Fresh content place held) (missing : Nat) :
    ∃ after, reader.passOver missing = .ok after ∧ after.Reads content ∧
      after.place = min (place + missing) content.length := by
  have hlimit {missing : Nat} (hmissing : ¬ missing = 0) : 0 < min bufferSize missing := by
    simp only [bufferSize]
    omega
  fun_induction passOver missing reader generalizing place with
  | case1 reader =>
      refine ⟨reader, rfl, h.reads, ?_⟩
      rw [h.place_eq, Nat.add_zero, Nat.min_eq_left h.le_length]
  | case2 missing reader hmissing breach htake =>
      exact absurd htake (h.takePortion_ne_error (hlimit hmissing) breach)
  | case3 missing reader hmissing after htake =>
      obtain ⟨hreached, -, hend⟩ := h.of_takePortion (hlimit hmissing) htake
      have hplace := hend rfl
      refine ⟨after, rfl, hreached.reads, ?_⟩
      rw [hreached.place_eq]
      omega
  | case4 missing reader hmissing n after htake ih =>
      obtain ⟨hreached, hle, -⟩ := h.of_takePortion (hlimit hmissing) htake
      obtain ⟨last, hpass, hlast, hplace⟩ := ih hreached
      refine ⟨last, hpass, hlast, ?_⟩
      rw [hplace]
      omega

end Fresh

namespace Reads

theorem exists_read (h : reader.Reads content) (n : Nat) :
    ∃ after, reader.read n = .ok ((content.drop reader.place).take n, after) ∧
      after.Reads content ∧ after.place = min (reader.place + n) content.length := by
  have hpassed := h.passed_le
  have hunread := h.unread_le
  have hstart : reader.place = reader.passed - reader.unread := rfl
  rw [read]
  by_cases hkept : n ≤ reader.unread
  · simp only [if_pos hkept, h.slice_eq]
    refine ⟨_, rfl, ⟨h.chain, h.bytes_chain, h.content_eq, h.flow, h.passed_add, ?_⟩, ?_⟩
    · show reader.unread - n ≤ reader.passed
      omega
    · show reader.passed - (reader.unread - n) = min (reader.place + n) content.length
      omega
  · obtain ⟨rest, ended, middle, hpass, hmiddle, hrest, hends, hfew⟩ :=
      h.fresh.exists_passBuffers (n - reader.unread)
    -- What a short read lacks lies behind the end, so the whole slice is the same.
    have hshort : ∀ {lacking : Nat}, lacking ≤ n →
        reader.place + (n - lacking) = content.length →
        reader.slice reader.place (reader.place + (n - lacking)) =
          (content.drop reader.place).take n := by
      intro lacking hle hend
      rw [h.slice_eq, List.take_of_length_le (by rw [List.length_drop]; omega),
        List.take_of_length_le (by rw [List.length_drop]; omega)]
    simp only [if_neg hkept, hpass]
    cases ended with
    | true =>
        have hend := hends rfl
        refine ⟨middle, ?_, hmiddle.reads, ?_⟩
        · simp only [hshort (by omega : rest ≤ n) (by omega)]
        · rw [hmiddle.place_eq]
          omega
    | false =>
        obtain ⟨lacking, after, hfill, hafter, hplace, hle, hlast⟩ :=
          hmiddle.exists_fillBuffer (by rw [Nat.zero_add]; exact hfew rfl)
        refine ⟨after, ?_, hafter, ?_⟩
        · by_cases hnone : lacking = 0
          · simp only [hfill, hnone, Nat.sub_zero, h.slice_eq]
          · have hend := hlast hnone
            simp only [hfill, hshort (by omega : lacking ≤ n) (by omega)]
        · have hafterPlace := hafter.place_le
          by_cases hnone : lacking = 0
          · omega
          · have hend := hlast hnone
            omega

theorem exists_seek (h : reader.Reads content) (target : Nat) :
    ∃ after, reader.seek target = .ok after ∧ after.Reads content ∧
      after.place = min target content.length := by
  have hpassed := h.passed_le
  rw [seek]
  split
  next hkept =>
    refine ⟨_, rfl, ⟨h.chain, h.bytes_chain, h.content_eq, h.flow, h.passed_add, ?_⟩, ?_⟩
    · exact Nat.sub_le _ _
    · show reader.passed - (reader.passed - target) = min target content.length
      omega
  next =>
    dsimp only
    split
    next hback =>
      obtain ⟨after, hpass, hafter, hplace⟩ := h.fresh_start.exists_passOver target
      rw [Nat.zero_add] at hplace
      exact ⟨after, hpass, hafter, hplace⟩
    next hforth =>
      obtain ⟨after, hpass, hafter, hplace⟩ :=
        h.fresh.exists_passOver (target - reader.passed)
      rw [Nat.add_sub_cancel' (Nat.le_of_not_lt hforth)] at hplace
      exact ⟨after, hpass, hafter, hplace⟩

end Reads

end BuildVersion.Gzip.Reader
