import SeedMg24.Analysis.NodeActions
import SeedMg24.Model.BleProvisioning

/-!
# The gateway's command text and the node's tokenizer

The provisioner prints a command, the node splits it at its spaces and reads the numbers back.
For every validated configuration the node gets exactly the values the gateway printed, and they
pass its bounds; with a token missing or a token more the node refuses the command.
-/

set_option autoImplicit false

namespace SeedMg24.Analysis

open Foundation Foundation.Text Model

/-! ## Splitting a line -/

/-- Reading a token takes the next word. -/
theorem nextCommandToken_remaining {line : Text} {k : ℕ} {w : Text} {words : List Text}
    (h : Remaining line k (w :: words)) :
    ∃ k', nextCommandToken line k = some (w, k') ∧ Remaining line k' words := by
  obtain ⟨hwords, before, hbefore, rfl, rfl⟩ := h
  have hw := hwords w (by simp)
  refine ⟨offset before + w.length + 1, ?_, ?_, before ++ [w], by simp, by simp, ?_⟩
  · unfold nextCommandToken
    rw [if_neg (by have := offset_lt_length_joined before hw.1 words; omega)]
    simp only [wordEnd_joined before hw words, substring_joined,
      List.length_pos_iff.mpr hw.1, if_true]
  · intro v hv
    exact hwords v (by simp [hv])
  · simp
    omega

/-- After the last word there is no token. -/
theorem nextCommandToken_over {line : Text} {k : ℕ} (h : Remaining line k []) :
    nextCommandToken line k = none := by
  have hover := h.le_length_iff
  unfold nextCommandToken
  rw [if_pos (by simp at hover; omega)]

/-- The seven settings of a line. -/
theorem nextSettingTokens_remaining {line : Text} {k : ℕ}
    {sample process report heartbeat filter window enabled : Text} {words : List Text}
    (h : Remaining line k
      (sample :: process :: report :: heartbeat :: filter :: window :: enabled :: words)) :
    ∃ k', nextSettingTokens line k =
        some (⟨sample, process, report, heartbeat, filter, window, enabled⟩, k') ∧
      Remaining line k' words := by
  obtain ⟨k₁, hsample, h⟩ := nextCommandToken_remaining h
  obtain ⟨k₂, hprocess, h⟩ := nextCommandToken_remaining h
  obtain ⟨k₃, hreport, h⟩ := nextCommandToken_remaining h
  obtain ⟨k₄, hheartbeat, h⟩ := nextCommandToken_remaining h
  obtain ⟨k₅, hfilter, h⟩ := nextCommandToken_remaining h
  obtain ⟨k₆, hwindow, h⟩ := nextCommandToken_remaining h
  obtain ⟨k₇, henabled, h⟩ := nextCommandToken_remaining h
  refine ⟨k₇, ?_, h⟩
  simp [nextSettingTokens, hsample, hprocess, hreport, hheartbeat, hfilter, hwindow, henabled]

/-- Fewer than seven words are no settings. -/
theorem nextSettingTokens_short {line : Text} {k : ℕ} {words : List Text}
    (h : Remaining line k words) (hshort : words.length < 7) : nextSettingTokens line k = none := by
  unfold nextSettingTokens
  rcases words with _ | ⟨sample, words⟩
  · simp [nextCommandToken_over h]
  obtain ⟨k₁, hsample, h⟩ := nextCommandToken_remaining h
  rcases words with _ | ⟨process, words⟩
  · simp [hsample, nextCommandToken_over h]
  obtain ⟨k₂, hprocess, h⟩ := nextCommandToken_remaining h
  rcases words with _ | ⟨report, words⟩
  · simp [hsample, hprocess, nextCommandToken_over h]
  obtain ⟨k₃, hreport, h⟩ := nextCommandToken_remaining h
  rcases words with _ | ⟨heartbeat, words⟩
  · simp [hsample, hprocess, hreport, nextCommandToken_over h]
  obtain ⟨k₄, hheartbeat, h⟩ := nextCommandToken_remaining h
  rcases words with _ | ⟨filter, words⟩
  · simp [hsample, hprocess, hreport, hheartbeat, nextCommandToken_over h]
  obtain ⟨k₅, hfilter, h⟩ := nextCommandToken_remaining h
  rcases words with _ | ⟨window, words⟩
  · simp [hsample, hprocess, hreport, hheartbeat, hfilter, nextCommandToken_over h]
  obtain ⟨k₆, hwindow, h⟩ := nextCommandToken_remaining h
  rcases words with _ | ⟨enabled, words⟩
  · simp [hsample, hprocess, hreport, hheartbeat, hfilter, hwindow, nextCommandToken_over h]
  · simp only [List.length_cons] at hshort
    omega

/-- The words of a line with more than seven settings. -/
theorem exists_eight {words : List Text} (h : 7 < words.length) :
    ∃ sample process report heartbeat filter window enabled v rest,
      words = sample :: process :: report :: heartbeat :: filter :: window :: enabled ::
        v :: rest := by
  rcases words with _ | ⟨_, _ | ⟨_, _ | ⟨_, _ | ⟨_, _ | ⟨_, _ | ⟨_, _ | ⟨_, _ | ⟨_, _⟩⟩⟩⟩⟩⟩⟩⟩ <;>
    simp_all

/-- The node id and the settings of a line that holds exactly them. -/
theorem provisionBody_remaining {line : Text} {k : ℕ}
    {nodeId sample process report heartbeat filter window enabled : Text}
    (h : Remaining line k
      [nodeId, sample, process, report, heartbeat, filter, window, enabled]) :
    provisionBody line k =
      some (nodeId, ⟨sample, process, report, heartbeat, filter, window, enabled⟩) := by
  obtain ⟨k₁, hnode, h⟩ := nextCommandToken_remaining h
  obtain ⟨k₂, hsettings, h⟩ := nextSettingTokens_remaining h
  have hover := h.le_length_iff
  simp only [ne_eq, not_true_eq_false, iff_false] at hover
  simp [provisionBody, hnode, hsettings, hover]

/-- A line of any other number of words holds no node id with settings. -/
theorem provisionBody_none {line : Text} {k : ℕ} {words : List Text} (h : Remaining line k words)
    (hcount : words.length ≠ 8) : provisionBody line k = none := by
  unfold provisionBody
  rcases words with _ | ⟨nodeId, words⟩
  · simp [nextCommandToken_over h]
  obtain ⟨k₁, hnode, h⟩ := nextCommandToken_remaining h
  by_cases hshort : words.length < 7
  · simp [hnode, nextSettingTokens_short h hshort]
  obtain ⟨sample, process, report, heartbeat, filter, window, enabled, v, rest, rfl⟩ :=
    exists_eight (show 7 < words.length by simp at hcount; omega)
  obtain ⟨k₂, hsettings, h⟩ := nextSettingTokens_remaining h
  have hover := h.le_length_iff
  simp only [ne_eq, reduceCtorEq, not_false_eq_true, iff_true] at hover
  simp [hnode, hsettings, hover]

/-- The transaction id and the settings of a line that holds exactly them. -/
theorem configurationHeader_remaining {line : Text}
    {transactionId sample process report heartbeat filter window enabled : Text}
    (hlength : 8 ≤ transactionId.length ∧ transactionId.length ≤ 24)
    (h : Remaining line 7
      ["1".toList, transactionId, sample, process, report, heartbeat, filter, window, enabled]) :
    configurationHeader line =
      some (transactionId, ⟨sample, process, report, heartbeat, filter, window, enabled⟩) := by
  obtain ⟨k₁, hversion, h⟩ := nextCommandToken_remaining h
  obtain ⟨k₂, htransaction, h⟩ := nextCommandToken_remaining h
  obtain ⟨k₃, hsettings, h⟩ := nextSettingTokens_remaining h
  have hover := h.le_length_iff
  simp only [ne_eq, not_true_eq_false, iff_false] at hover
  simp [configurationHeader, hversion, htransaction, hsettings, hover, validTransaction, hlength]

/-- A line of any other number of words holds no configuration transaction. -/
theorem configurationHeader_none {line : Text} {words : List Text} (h : Remaining line 7 words)
    (hcount : words.length ≠ 9) : configurationHeader line = none := by
  unfold configurationHeader
  rcases words with _ | ⟨version, words⟩
  · simp [nextCommandToken_over h]
  obtain ⟨k₁, hversion, h⟩ := nextCommandToken_remaining h
  rcases words with _ | ⟨transactionId, words⟩
  · simp [hversion, nextCommandToken_over h]
  obtain ⟨k₂, htransaction, h⟩ := nextCommandToken_remaining h
  by_cases hshort : words.length < 7
  · simp [hversion, htransaction, nextSettingTokens_short h hshort]
  obtain ⟨sample, process, report, heartbeat, filter, window, enabled, v, rest, rfl⟩ :=
    exists_eight (show 7 < words.length by simp at hcount; omega)
  obtain ⟨k₃, hsettings, h⟩ := nextSettingTokens_remaining h
  have hover := h.le_length_iff
  simp only [ne_eq, reduceCtorEq, not_false_eq_true, iff_true] at hover
  simp [hversion, htransaction, hsettings, hover]

/-! ## Printed values -/

theorem str_natCast (n : ℕ) : str n = decimal n := by
  rw [str, if_neg (by omega), Int.natAbs_natCast]

/-- A printed number is a word of plain characters. -/
theorem plain_str {z : ℤ} (hz : 0 ≤ z) : str z ≠ [] ∧ ∀ c ∈ str z, isPlain c = true := by
  rw [str, if_neg (by omega)]
  exact ⟨decimal_ne_nil _, fun c hc => isPlain_of_isDigit (isDigit_of_mem_decimal hc)⟩

theorem length_str_le {z : ℤ} {k : ℕ} (hk : 0 < k) (hz : 0 ≤ z ∧ z < 10 ^ k) :
    (str z).length ≤ k := by
  rw [str, if_neg (by omega)]
  refine length_decimal_le hk ?_
  have hcast : (z.natAbs : ℤ) = z := Int.natAbs_of_nonneg hz.1
  exact_mod_cast hcast ▸ hz.2

/-- The node reads a printed number back, if it is within the bounds. -/
theorem parseBoundedUint_str {z : ℤ} (minimum maximum : ℕ) (hz : minimum ≤ z ∧ z ≤ maximum)
    (hmaximum : maximum ≤ 0xFFFFFFFF) :
    parseBoundedUint (str z) minimum maximum = some (UInt32.ofNat z.toNat) := by
  obtain ⟨n, rfl⟩ := Int.eq_ofNat_of_zero_le (show 0 ≤ z by omega)
  have hall : (decimal n).all Char.isDigit = true := by
    rw [List.all_eq_true]
    exact fun c hc => isDigit_of_mem_decimal hc
  have hbounds : minimum ≤ n ∧ n ≤ maximum := by omega
  rw [str_natCast, Int.toNat_natCast, parseBoundedUint,
    if_neg (by simp [decimal_ne_nil, hall])]
  simp only [digitsValue_decimal]
  rw [min_eq_left (by omega), if_neg (by omega)]

/-- The numbers of a configuration to store. -/
def storedValues (c : StoredChannelConfiguration) : List ℤ :=
  [c.sampleIntervalMs.toNat, c.processingIntervalMs.toNat, c.reportIntervalMs.toNat,
    c.heartbeatIntervalMs.toNat, c.filterType.toNat, c.filterWindow.toNat, c.enabled.toNat]

/-- The numbers the node accepts. -/
def ValuesInBounds (sample process report heartbeat filter window enabled : ℤ) : Prop :=
  (50 ≤ sample ∧ sample ≤ 5000) ∧ (50 ≤ process ∧ process ≤ 5000) ∧
    (50 ≤ report ∧ report ≤ 5000) ∧ (1000 ≤ heartbeat ∧ heartbeat ≤ 3600000) ∧
    (0 ≤ filter ∧ filter ≤ 3) ∧ (1 ≤ window ∧ window ≤ 9) ∧ (0 ≤ enabled ∧ enabled ≤ 1)

/-- The node stages exactly the printed numbers. -/
theorem stagedConfiguration_str {sample process report heartbeat filter window enabled : ℤ}
    (h : ValuesInBounds sample process report heartbeat filter window enabled) :
    ∃ staged, stagedConfiguration ⟨str sample, str process, str report, str heartbeat, str filter,
        str window, str enabled⟩ = some staged ∧
      storedValues staged = [sample, process, report, heartbeat, filter, window, enabled] := by
  obtain ⟨hsample, hprocess, hreport, hheartbeat, hfilter, hwindow, henabled⟩ := h
  have hnat : ∀ {z : ℤ} (maximum : ℕ), 0 ≤ z ∧ z ≤ maximum → maximum ≤ 0xFFFFFFFF →
      ((UInt32.ofNat z.toNat).toNat : ℤ) = z := by
    intro z maximum hz hmaximum
    rw [UInt32.toNat_ofNat_of_lt' (by simp only [UInt32.size]; omega)]
    omega
  have hbyte : ∀ {z : ℤ} (maximum : ℕ), 0 ≤ z ∧ z ≤ maximum → maximum ≤ 255 →
      ((UInt32.ofNat z.toNat).toUInt8.toNat : ℤ) = z := by
    intro z maximum hz hmaximum
    rw [UInt32.toNat_toUInt8, UInt32.toNat_ofNat_of_lt' (by simp only [UInt32.size]; omega)]
    omega
  unfold stagedConfiguration
  simp only [parseBoundedUint_str 50 5000 hsample (by decide),
    parseBoundedUint_str 50 5000 hprocess (by decide),
    parseBoundedUint_str 50 5000 hreport (by decide),
    parseBoundedUint_str 1000 3600000 hheartbeat (by decide),
    parseBoundedUint_str 0 3 hfilter (by decide),
    parseBoundedUint_str 1 MAX_FILTER_WINDOW hwindow (by decide),
    parseBoundedUint_str 0 1 henabled (by decide)]
  refine ⟨_, rfl, ?_⟩
  simp only [storedValues]
  rw [hnat 5000 (by omega) (by decide), hnat 5000 (by omega) (by decide),
    hnat 5000 (by omega) (by decide), hnat 3600000 (by omega) (by decide),
    hbyte 3 (by omega) (by decide), hbyte 9 (by omega) (by decide),
    hbyte 1 (by omega) (by decide)]

/-! ## Node and transaction ids -/

/-- A capital letter or digit resets the dash rule. -/
theorem nodeIdChars_append {part : Text}
    (hpart : ∀ c ∈ part, (('A' ≤ c && c ≤ 'Z') || ('0' ≤ c && c ≤ '9')) = true) (rest : Text) :
    nodeIdChars false (part ++ rest) = nodeIdChars false rest := by
  induction part with
  | nil => rfl
  | cons c part ih =>
    have hc := hpart c (by simp)
    have hdash : (c == '-') = false := by
      rw [beq_eq_false_iff_ne]
      rintro rfl
      exact absurd hc (by decide)
    rw [List.cons_append, nodeIdChars, hdash, ih fun d hd => hpart d (by simp [hd])]
    simp [nodeIdChar, hc]

/-- What the gateway's pattern accepts are dash-separated parts the node's rule accepts. -/
theorem nodeIdChars_intercalate {parts : List Text} (hne : parts ≠ [])
    (hparts : ∀ part ∈ parts, part ≠ [] ∧
      ∀ c ∈ part, (('A' ≤ c && c ≤ 'Z') || ('0' ≤ c && c ≤ '9')) = true) :
    (['-'].intercalate parts ≠ [] ∧ (['-'].intercalate parts).head? ≠ some '-' ∧
      (['-'].intercalate parts).getLast? ≠ some '-') ∧
      nodeIdChars false (['-'].intercalate parts) = true := by
  have hends : ∀ part ∈ parts, part.head? ≠ some '-' ∧ part.getLast? ≠ some '-' := by
    intro part hpart
    have hdash : '-' ∉ part := fun h => absurd ((hparts part hpart).2 '-' h) (by decide)
    exact ⟨fun h => hdash (List.mem_of_mem_head? h), fun h => hdash (List.mem_of_getLast? h)⟩
  induction parts with
  | nil => exact absurd rfl hne
  | cons part parts ih =>
    have hpart := hparts part (by simp)
    have hend := hends part (by simp)
    cases parts with
    | nil =>
      rw [List.intercalate_singleton]
      refine ⟨⟨hpart.1, hend.1, hend.2⟩, ?_⟩
      have h := nodeIdChars_append hpart.2 []
      rwa [List.append_nil] at h
    | cons next parts =>
      have htail := ih (by simp) (fun p hp => hparts p (by simp [hp]))
        (fun p hp => hends p (by simp [hp]))
      obtain ⟨⟨hne, hhead, hlast⟩, hchars⟩ := htail
      obtain ⟨c, tail, hjoined⟩ := List.exists_cons_of_ne_nil hne
      rw [List.intercalate_cons_cons, List.append_assoc, List.singleton_append, hjoined]
      rw [hjoined] at hhead hlast hchars
      obtain ⟨d, front, rfl⟩ := List.exists_cons_of_ne_nil hpart.1
      have hc : (c == '-') = false := by simpa using hhead
      refine ⟨⟨by simp, by simpa using hend.1, ?_⟩, ?_⟩
      · rw [List.getLast?_append, List.getLast?_cons_cons]
        simpa [List.getLast?_eq_some_getLast] using hlast
      · rw [nodeIdChars_append hpart.2]
        rw [nodeIdChars, hc] at hchars
        have hfirst : nodeIdChars true (c :: tail) = true := by
          rw [nodeIdChars, hc]
          simpa using hchars
        have hallowed : nodeIdChar '-' = true := by decide
        rw [nodeIdChars, hallowed]
        simpa using hfirst

/-- **The node accepts every node id the gateway accepts.** -/
theorem validNodeId_of_pattern {s : Text} (hpattern : nodeIdPattern s = true)
    (hlength : s.length ≤ 31) : validNodeId s = true := by
  unfold nodeIdPattern at hpattern
  rw [List.all_eq_true] at hpattern
  have hparts := nodeIdChars_intercalate (List.splitOn_ne_nil '-' s) (by
    intro part hpart
    have h := hpattern part hpart
    rw [Bool.and_eq_true, List.all_eq_true] at h
    exact ⟨by simpa using h.1, h.2⟩)
  rw [List.intercalate_splitOn] at hparts
  rw [validNodeId_iff]
  exact ⟨⟨hparts.1.1, hlength, hparts.1.2.1, hparts.1.2.2⟩, hparts.2⟩

/-- The parts between the dashes of what the node's rule accepts: only the first one may be empty,
and only when a dash comes first. -/
theorem parts_of_nodeIdChars {previous : Bool} {s : Text} (h : nodeIdChars previous s = true)
    (hlast : s.getLast? ≠ some '-') :
    ∃ first rest, s.splitOn '-' = first :: rest ∧
      (s ≠ [] → s.head? ≠ some '-' → first ≠ []) ∧
      (∀ c ∈ first, (('A' ≤ c && c ≤ 'Z') || ('0' ≤ c && c ≤ '9')) = true) ∧
      ∀ part ∈ rest, part ≠ [] ∧
        ∀ c ∈ part, (('A' ≤ c && c ≤ 'Z') || ('0' ≤ c && c ≤ '9')) = true := by
  induction s generalizing previous with
  | nil => exact ⟨[], [], by simp, by simp, by simp, by simp⟩
  | cons c s ih =>
    simp only [nodeIdChars, Bool.and_eq_true] at h
    obtain ⟨⟨hchar, -⟩, hchars⟩ := h
    have hlast' : s.getLast? ≠ some '-' := by
      cases s with
      | nil => simp
      | cons d s => simpa using hlast
    obtain ⟨first, rest, hsplit, hne, hfirst, hrest⟩ := ih hchars hlast'
    have hcons : (c :: s).splitOn '-' =
        if c == '-' then [] :: s.splitOn '-' else (s.splitOn '-').modifyHead (c :: ·) :=
      List.splitOnP_cons_eq_if_modifyHead c s
    rw [hcons, hsplit]
    cases hc : c == '-' with
    | true =>
      rw [hc] at hchars
      have hc : c = '-' := by simpa using hc
      have hs : s ≠ [] := by
        rintro rfl
        exact hlast (by rw [hc]; rfl)
      have hhead : s.head? ≠ some '-' := by
        obtain ⟨d, s, rfl⟩ := List.exists_cons_of_ne_nil hs
        simp only [nodeIdChars, Bool.and_eq_true] at hchars
        simpa using hchars.1.2
      refine ⟨[], first :: rest, rfl, fun _ hdash => absurd (congrArg some hc) hdash, by simp, ?_⟩
      intro part hpart
      rcases List.mem_cons.mp hpart with rfl | hpart
      · exact ⟨hne hs hhead, hfirst⟩
      · exact hrest part hpart
    | false =>
      refine ⟨c :: first, rest, rfl, fun _ _ => List.cons_ne_nil _ _, ?_, hrest⟩
      intro d hd
      rcases List.mem_cons.mp hd with rfl | hd
      · simpa [nodeIdChar, hc] using hchar
      · exact hfirst d hd

/-- **The gateway accepts every node id the node accepts.** -/
theorem pattern_of_validNodeId {s : Text} (h : validNodeId s = true) :
    nodeIdPattern s = true ∧ s.length ≤ 31 := by
  obtain ⟨⟨hne, hlength, hhead, hlast⟩, hchars⟩ := validNodeId_iff.mp h
  obtain ⟨first, rest, hsplit, hfirst, hplain, hrest⟩ := parts_of_nodeIdChars hchars hlast
  refine ⟨?_, hlength⟩
  unfold nodeIdPattern
  rw [hsplit, List.all_eq_true]
  intro part hpart
  rw [Bool.and_eq_true, List.all_eq_true]
  rcases List.mem_cons.mp hpart with rfl | hpart
  · exact ⟨by simpa using hfirst hne hhead, hplain⟩
  · exact ⟨by simpa using (hrest part hpart).1, (hrest part hpart).2⟩

/-- The characters of a node id are plain. -/
theorem plain_of_validNodeId {s : Text} (h : validNodeId s = true) :
    s ≠ [] ∧ ∀ c ∈ s, isPlain c = true := by
  rw [validNodeId_iff] at h
  refine ⟨h.1.1, fun c hc => ?_⟩
  have hchar := nodeIdChar_of_mem h.2 c hc
  simp only [nodeIdChar, Bool.or_eq_true, Bool.and_eq_true, decide_eq_true_eq, beq_iff_eq] at hchar
  rw [isPlain, decide_eq_true_eq]
  rcases hchar with (⟨h1, h2⟩ | ⟨h1, h2⟩) | rfl
  · have h1 : 65 ≤ c.toNat := h1
    have h2 : c.toNat ≤ 90 := h2
    omega
  · have h1 : 48 ≤ c.toNat := h1
    have h2 : c.toNat ≤ 57 := h2
    omega
  · decide

/-- A transaction id in capitals has 16 to 24 plain characters. -/
theorem plain_of_transactionIdPattern {s : Text} (h : transactionIdPattern s = true) :
    (16 ≤ (toUpperAscii s).length ∧ (toUpperAscii s).length ≤ 24) ∧
      ∀ c ∈ toUpperAscii s, isPlain c = true := by
  simp only [transactionIdPattern, Bool.and_eq_true, decide_eq_true_eq, List.all_eq_true,
    Bool.or_eq_true] at h
  refine ⟨by simpa [toUpperAscii] using h.1, fun c hc => ?_⟩
  obtain ⟨d, hd, rfl⟩ := List.mem_map.mp hc
  rcases h.2 d hd with ⟨h1, h2⟩ | ⟨h1, h2⟩
  · have h1 : 48 ≤ d.toNat := h1
    have h2 : d.toNat ≤ 57 := h2
    have hplain : isPlain d = true := by
      rw [isPlain, decide_eq_true_eq]
      omega
    rwa [toUpper_of_isPlain hplain]
  · have h1 : 97 ≤ d.toNat := h1
    have h2 : d.toNat ≤ 102 := h2
    have hd : d = Char.ofNat d.toNat := (Char.ofNat_toNat d).symm
    rw [hd]
    have hall : ∀ k, 97 ≤ k → k ≤ 102 → isPlain (Char.ofNat k).toUpper = true := by decide
    exact hall d.toNat h1 h2

/-! ## Refused commands -/

/-- The node answers the bytes with an error, or ignores what its buffer cannot hold. -/
def Rejected (value : Text) : Prop :=
  ∀ (n : Node) (now : UInt32),
    if Node.pendingBleCommandSize ≤ value.length then n.writeCommand value now = return n
    else ∃ code, n.writeCommand value now = return n.commandResult false code now

/-- The words of a command with a word too few or too many. -/
inductive Malformed : List Text → Prop
  | provision {words : List Text} (hne : words ≠ []) (hcount : words.length ≠ 10) :
      Malformed ("PROV".toList :: words)
  | configuration {words : List Text} (hne : words ≠ []) (hcount : words.length ≠ 9) :
      Malformed ("CFGSET".toList :: words)
  | headless {words : List Text} (hne : words ≠ []) : Malformed ("1".toList :: words)

/-- Whether a line begins with a command word. -/
theorem isPrefixOf_line {name : Text} (hname : ' ' ∉ name) {first : Text} {words : List Text}
    (hwords : ∀ w ∈ first :: words, IsWord w) (hne : words ≠ []) :
    (name ++ [' ']).isPrefixOf (joined (first :: words)) = decide (first = name) := by
  rw [Bool.eq_iff_iff, decide_eq_true_eq, isPrefixOf_joined hname fun w hw => (hwords w hw).2]
  have hpos := List.length_pos_iff.mpr hne
  simp only [List.head?_cons, Option.some.injEq, List.length_cons, and_iff_left_iff_imp]
  omega

/-- The header of a provisioning command, and what is left after it. -/
theorem provisionHeader_remaining {line : Text} {words : List Text}
    (hprovget : isProvget line = false) (h : Remaining line 5 words) :
    provisionHeader line = none ∨ ∃ version transactionId rest k,
      words = version :: transactionId :: rest ∧
        provisionHeader line = some (transactionId, k) ∧ Remaining line k rest := by
  unfold provisionHeader
  rw [hprovget]
  rcases words with _ | ⟨version, words⟩
  · exact .inl (by simp [nextCommandToken_over h])
  obtain ⟨k₁, hversion, h⟩ := nextCommandToken_remaining h
  rcases words with _ | ⟨transactionId, words⟩
  · exact .inl (by simp [hversion, nextCommandToken_over h])
  obtain ⟨k₂, htransaction, h⟩ := nextCommandToken_remaining h
  by_cases hvalid : validTransaction version transactionId = true
  · exact .inr ⟨version, transactionId, words, k₂, rfl,
      by simp [hversion, htransaction, hvalid], h⟩
  · exact .inl (by simp [hversion, htransaction, hvalid])

/-- A provisioning command with a word too few or too many is refused. -/
theorem provisionAction_malformed (n : Node) {words : List Text}
    (hwords : ∀ w ∈ "PROV".toList :: words, IsWord w) (hne : words ≠ [])
    (hcount : words.length ≠ 10) :
    ∃ code, provisionAction n (joined ("PROV".toList :: words)) = some (.reject code) := by
  have hprov : "PROV ".toList.isPrefixOf (joined ("PROV".toList :: words)) = true := by
    rw [show "PROV ".toList = "PROV".toList ++ [' '] by rfl,
      isPrefixOf_line (by decide) hwords hne]
    rfl
  have hprovget : isProvget (joined ("PROV".toList :: words)) = false := by
    rw [isProvget, show "PROVGET ".toList = "PROVGET".toList ++ [' '] by rfl,
      isPrefixOf_line (by decide) hwords hne]
    rfl
  have hremaining : Remaining (joined ("PROV".toList :: words)) 5 words :=
    remaining_joined _ fun w hw => hwords w (by simp [hw])
  unfold provisionAction
  rw [hprov, hprovget]
  split
  · exact ⟨_, rfl⟩
  simp only [Bool.not_true, Bool.false_and, Bool.false_eq_true, if_false]
  rcases provisionHeader_remaining hprovget hremaining with hnone |
    ⟨version, transactionId, rest, k, rfl, hsome, h⟩
  · rw [hnone]
    exact ⟨_, rfl⟩
  · have hbody := provisionBody_none h (by simp at hcount; omega)
    simp only [hsome, hbody]
    exact ⟨_, rfl⟩

/-- What every line that does not begin with a name the handlers know is answered with. -/
theorem handleOtherCommand_unknown (n : Node) (now : UInt32) {command : Text} {c : Char}
    (hfirst : command.head? = some c) (hc : c ≠ 'L' ∧ c ≠ 'R' ∧ c ≠ 'B' ∧ c ≠ 'P') :
    n.handleOtherCommand command now = n.commandResult false "unknown_command".toList now := by
  have hne : ∀ text : Text, text.head? ≠ some c → command ≠ text := by
    rintro text htext rfl
    exact htext hfirst
  have hword : ∀ (d : Char) (text : Text), c ≠ d → (d :: text).isPrefixOf command = false := by
    intro d text hd
    obtain ⟨tail, htail⟩ := List.head?_eq_some_iff.mp hfirst
    rw [htail, List.isPrefixOf_cons_cons, beq_eq_false_iff_ne.mpr hd.symm, Bool.false_and]
  obtain ⟨hL, hR, hB, hP⟩ := hc
  unfold Node.handleOtherCommand
  rw [if_neg (hne _ (by simpa using hL.symm)), if_neg (hne _ (by simpa using hL.symm)),
    if_neg (by rw [show "LED ".toList = 'L' :: "ED ".toList by rfl, hword _ _ hL]; simp),
    if_neg (by rw [show "RATE ".toList = 'R' :: "ATE ".toList by rfl, hword _ _ hR]; simp),
    if_neg (hne _ (by simpa using hB.symm)), if_neg (hne _ (by simpa using hB.symm)),
    if_neg (hne _ (by simpa using hP.symm))]

/-- In capitals a word stays a word. -/
theorem isWord_toUpperAscii {w : Text} (h : IsWord w) : IsWord (toUpperAscii w) := by
  refine ⟨by simpa [toUpperAscii] using h.1, fun hspace => ?_⟩
  obtain ⟨c, hc, hupper⟩ := List.mem_map.mp hspace
  have hc' : c = ' ' := by
    unfold Char.toUpper at hupper
    split at hupper
    · rename_i hrange
      have hvalue := congrArg Char.toNat hupper
      have hlow : 97 ≤ c.toNat := hrange.1
      have hhigh : c.toNat ≤ 122 := hrange.2
      have hcases : ∀ k, 97 ≤ k → k ≤ 122 → (Char.ofNat k).toUpper ≠ ' ' := by decide
      refine absurd ?_ (hcases c.toNat hlow hhigh)
      rw [Char.ofNat_toNat]
      unfold Char.toUpper
      rw [dif_pos hrange]
      exact hupper
    · exact hupper
  exact h.2 (hc' ▸ hc)

/-- The words malformed commands begin with. -/
theorem Malformed.head {words : List Text} (h : Malformed words) :
    words.head? = some "PROV".toList ∨ words.head? = some "CFGSET".toList ∨
      words.head? = some "1".toList := by
  cases h with
  | provision => exact .inl rfl
  | configuration => exact .inr (.inl rfl)
  | headless => exact .inr (.inr rfl)

/-- The command of the serial port is none of the malformed ones. -/
theorem not_bootstrapPrefix {words : List Text} (hwords : ∀ w ∈ words, IsWord w)
    (hshape : Malformed (words.map toUpperAscii)) :
    kBootstrapPrefix.isPrefixOf (joined words) = false := by
  have hname : ' ' ∉ "MG24BOOT1".toList := by decide
  have hspace : ∀ w ∈ words, ' ' ∉ w := fun w hw => (hwords w hw).2
  have hsplit : kBootstrapPrefix = "MG24BOOT1".toList ++ [' '] := rfl
  rw [hsplit, ← Bool.not_eq_true, isPrefixOf_joined hname hspace]
  rintro ⟨hhead, -⟩
  have hmapped : (words.map toUpperAscii).head? = some (toUpperAscii "MG24BOOT1".toList) := by
    rw [List.head?_map, hhead, Option.map_some]
  have hupper : toUpperAscii "MG24BOOT1".toList = "MG24BOOT1".toList := by decide
  rw [hupper] at hmapped
  rcases hshape.head with h | h | h <;> rw [h] at hmapped <;>
    exact absurd (Option.some.inj hmapped) (by decide)

/-- The node refuses a line whose words are malformed. -/
theorem handleCommand_malformed {command : Text} {words : List Text}
    (hline : trim command = joined words) (hwords : ∀ w ∈ words, IsWord w)
    (hshape : Malformed (words.map toUpperAscii)) (n : Node) (now : UInt32) :
    ∃ code, n.handleCommand command now = return n.commandResult false code now := by
  have hupper : ∀ w ∈ words.map toUpperAscii, IsWord w := by
    intro w hw
    obtain ⟨v, hv, rfl⟩ := List.mem_map.mp hw
    exact isWord_toUpperAscii (hwords v hv)
  have hboot := not_bootstrapPrefix hwords hshape
  rw [handleCommand_eq]
  unfold commandAction
  dsimp only
  rw [hline, hboot, toUpperAscii_joined, if_neg Bool.false_ne_true]
  generalize words.map toUpperAscii = upper at hshape hupper
  cases hshape with
  | provision hne hcount =>
    obtain ⟨code, hcode⟩ := provisionAction_malformed n hupper hne hcount
    have hprov := isPrefixOf_line (show ' ' ∉ "PROV".toList by decide) hupper hne
    rw [← show "PROV ".toList = "PROV".toList ++ [' '] by rfl] at hprov
    rw [hcode, hprov]
    simp only [decide_true, Bool.not_true, Bool.and_false, Bool.false_and, Bool.false_eq_true,
      if_false]
    exact ⟨code, rfl⟩
  | @configuration words hne hcount =>
    have hfirst : ∀ name : Text, ' ' ∉ name →
        (name ++ [' ']).isPrefixOf (joined ("CFGSET".toList :: words)) =
          decide ("CFGSET".toList = name) := fun name hspace => isPrefixOf_line hspace hupper hne
    have hremaining : Remaining (joined ("CFGSET".toList :: words)) 7 words :=
      remaining_joined _ fun w hw => hupper w (by simp [hw])
    have hheader := configurationHeader_none hremaining hcount
    have hprov : "PROV ".toList.isPrefixOf (joined ("CFGSET".toList :: words)) = false :=
      hfirst "PROV".toList (by decide)
    have hprovget : "PROVGET ".toList.isPrefixOf (joined ("CFGSET".toList :: words)) = false :=
      hfirst "PROVGET".toList (by decide)
    have hcfgset : "CFGSET ".toList.isPrefixOf (joined ("CFGSET".toList :: words)) = true :=
      hfirst "CFGSET".toList (by decide)
    split
    · exact ⟨_, rfl⟩
    unfold provisionAction isProvget
    rw [hprov, hprovget]
    by_cases hbusy : n.factoryResetController.busy = true
    · rw [if_pos hbusy]
      exact ⟨_, rfl⟩
    rw [if_neg hbusy, if_pos (by simp)]
    unfold configurationAction
    rw [hcfgset, hheader]
    dsimp only
    split
    · rename_i action haction
      split at haction <;> cases haction <;> exact ⟨_, rfl⟩
    · rename_i haction
      split at haction <;> cases haction
  | @headless words hne =>
    have hfirst : ∀ name : Text, ' ' ∉ name → "1".toList ≠ name →
        (name ++ [' ']).isPrefixOf (joined ("1".toList :: words)) = false := by
      intro name hspace hname
      rw [isPrefixOf_line hspace hupper hne]
      exact decide_eq_false hname
    have hhead : (joined ("1".toList :: words)).head? = some '1' := by
      cases words with
      | nil => rfl
      | cons w words => rw [joined_cons_cons]; rfl
    have hne : ∀ text : Text, text.head? ≠ some '1' → joined ("1".toList :: words) ≠ text := by
      intro text htext heq
      exact htext (heq ▸ hhead)
    have hprov : "PROV ".toList.isPrefixOf (joined ("1".toList :: words)) = false :=
      hfirst "PROV".toList (by decide) (by decide)
    have hprovget : "PROVGET ".toList.isPrefixOf (joined ("1".toList :: words)) = false :=
      hfirst "PROVGET".toList (by decide) (by decide)
    have hcfgset : "CFGSET ".toList.isPrefixOf (joined ("1".toList :: words)) = false :=
      hfirst "CFGSET".toList (by decide) (by decide)
    have hcfg : "CFG ".toList.isPrefixOf (joined ("1".toList :: words)) = false :=
      hfirst "CFG".toList (by decide) (by decide)
    split
    · exact ⟨_, rfl⟩
    unfold provisionAction isProvget configurationAction fieldAction
    rw [hprov, hprovget, hcfgset, hcfg]
    by_cases hbusy : n.factoryResetController.busy = true
    · rw [if_pos hbusy]
      exact ⟨_, rfl⟩
    rw [if_neg hbusy, if_pos (by simp)]
    by_cases hopen : (n.factoryResetController.busy || n.bootstrapOnly) = true
    · rw [if_pos hopen]
      exact ⟨_, rfl⟩
    rw [if_neg hopen, if_pos (by simp)]
    dsimp only
    rw [if_neg (not_or.mpr ⟨hne _ (by decide), hne _ (by decide)⟩), if_neg (hne _ (by decide)),
      if_pos (by simp), handleOtherCommand_unknown n now hhead (by decide)]
    exact ⟨_, rfl⟩

/-! ## Received lines -/

/-- A line of plain words. -/
def PlainWords (words : List Text) : Prop := ∀ w ∈ words, w ≠ [] ∧ ∀ c ∈ w, isPlain c = true

theorem PlainWords.isWord {words : List Text} (h : PlainWords words) : ∀ w ∈ words, IsWord w := by
  intro w hw
  refine ⟨(h w hw).1, fun hspace => ?_⟩
  exact absurd ((h w hw).2 ' ' hspace) (by decide)

/-- Plain words are already in capitals. -/
theorem PlainWords.map_toUpperAscii {words : List Text} (h : PlainWords words) :
    words.map toUpperAscii = words := by
  have hword : ∀ w ∈ words, toUpperAscii w = w := by
    intro w hw
    have hchars : ∀ c ∈ w, c.toUpper = id c := fun c hc => toUpper_of_isPlain ((h w hw).2 c hc)
    rw [toUpperAscii, List.map_congr_left hchars, List.map_id]
  rw [List.map_congr_left (g := id) hword, List.map_id]

/-- A line of plain words holds no zero, and does not begin or end with a space. -/
theorem PlainWords.no_zero {words : List Text} (h : PlainWords words) : '\x00' ∉ joined words := by
  intro hzero
  rcases mem_joined hzero with heq | ⟨w, hw, hc⟩
  · exact absurd heq (by decide)
  · exact absurd ((h w hw).2 _ hc) (by decide)

theorem PlainWords.head_joined {words : List Text} (h : PlainWords words) :
    ∀ c ∈ (joined words).head?, isSpaceAscii c = false := by
  intro c hc
  rcases words with _ | ⟨w, words⟩
  · cases hc
  obtain ⟨d, tail, rfl⟩ := List.exists_cons_of_ne_nil (h w (by simp)).1
  have hfirst : (joined ((d :: tail) :: words)).head? = some d := by
    cases words with
    | nil => rfl
    | cons v words => rw [joined_cons_cons]; rfl
  rw [hfirst] at hc
  cases hc
  exact isSpaceAscii_of_isPlain ((h (c :: tail) (by simp)).2 c (by simp))

theorem PlainWords.getLast_joined {words : List Text} (h : PlainWords words) :
    ∀ c ∈ (joined words).getLast?, isSpaceAscii c = false := by
  intro c hc
  rcases List.eq_nil_or_concat' words with rfl | ⟨front, w, rfl⟩
  · cases hc
  have hw := h w (by simp)
  have hmem : c ∈ w := by
    by_cases hfront : front = []
    · rw [hfront, List.nil_append, joined_singleton] at hc
      exact List.mem_of_getLast? hc
    · obtain ⟨d, tail, rfl⟩ := List.exists_cons_of_ne_nil hw.1
      rw [joined_append_singleton hfront, List.getLast?_append, List.getLast?_cons_cons] at hc
      refine List.mem_of_getLast? ?_
      simpa [List.getLast?_eq_some_getLast] using hc
  exact isSpaceAscii_of_isPlain (hw.2 c hmem)

/-- A line of plain words arrives as it was sent. -/
theorem PlainWords.received {words : List Text} (h : PlainWords words) :
    trim (cString (joined words)) = joined words := by
  rw [cString_eq_self h.no_zero, trim_eq_self h.head_joined h.getLast_joined]

/-- A token that can be appended: without the separator, and not all spaces. -/
def IsToken (token : Text) : Prop :=
  ' ' ∉ token ∧ ∃ c ∈ cString token, isSpaceAscii c = false

/-- What arrives of an appended token. -/
def arrived (token : Text) : Text := (cString token).rdropWhile isSpaceAscii

theorem IsToken.isWord_arrived {token : Text} (h : IsToken token) : IsWord (arrived token) := by
  obtain ⟨hspace, c, hc, hvisible⟩ := h
  refine ⟨fun hnil => ?_, fun hmem => ?_⟩
  · rw [arrived, List.rdropWhile_eq_nil_iff] at hnil
    exact absurd (hnil c hc) (by simp [hvisible])
  · have hsub : (arrived token).Sublist token :=
      (List.rdropWhile_prefix _ _).sublist.trans (List.takeWhile_sublist _)
    exact hspace (hsub.subset hmem)

/-- A line of plain words with a token appended arrives as a line of one word more. -/
theorem PlainWords.received_append {words : List Text} (h : PlainWords words) (hne : words ≠ [])
    {token : Text} (htoken : IsToken token) :
    trim (cString (joined words ++ ' ' :: token)) = joined (words ++ [arrived token]) := by
  have hcut : cString (joined words ++ ' ' :: token) = joined words ++ ' ' :: cString token := by
    rw [cString, List.takeWhile_append_of_pos]
    · rw [List.takeWhile_cons_of_pos (by decide), cString]
    · intro c hc
      rw [decide_eq_true_eq]
      rintro rfl
      exact h.no_zero hc
  have harrived := htoken.isWord_arrived.1
  have hdrop : (' ' :: cString token).rdropWhile isSpaceAscii = ' ' :: arrived token := by
    have hrev : (cString token).reverse.dropWhile isSpaceAscii ≠ [] := by
      rw [arrived, List.rdropWhile, ne_eq, List.reverse_eq_nil_iff] at harrived
      exact harrived
    rw [List.rdropWhile, List.reverse_cons, List.dropWhile_append, if_neg (by simpa using hrev),
      List.reverse_append, arrived, List.rdropWhile]
    rfl
  have hline : joined words ≠ [] := by
    have hlength := length_joined _ hne
    intro hnil
    obtain ⟨w, rest, rfl⟩ := List.exists_cons_of_ne_nil hne
    have hpos := List.length_pos_iff.mpr (h w (by simp)).1
    rw [hnil, offset_cons] at hlength
    simp only [List.length_nil] at hlength
    omega
  rw [hcut, trim_append hline h.head_joined (by rw [hdrop]; simp), hdrop,
    joined_append_singleton hne]

/-- What arrives malformed is refused. -/
theorem rejected_of_malformed {value : Text} {words : List Text}
    (hline : trim (cString value) = joined words) (hwords : ∀ w ∈ words, IsWord w)
    (hshape : Malformed (words.map toUpperAscii)) : Rejected value := by
  intro n now
  unfold Node.writeCommand
  split
  · rfl
  · exact handleCommand_malformed hline hwords hshape n now

/-- A command of plain words with a word removed, if a word less is malformed. -/
theorem rejected_erase {words : List Text} (h : PlainWords words) (hne : words ≠ [])
    (hshape : ∀ i < words.length, Malformed (words.eraseIdx i)) :
    ∀ i < ((joined words).splitOn ' ').length,
      Rejected ([' '].intercalate (((joined words).splitOn ' ').eraseIdx i)) := by
  intro i hi
  have hsplit : (joined words).splitOn ' ' = words :=
    List.splitOn_intercalate ' ' (fun w hw => (h.isWord w hw).2) hne
  rw [hsplit] at hi ⊢
  have herase : PlainWords (words.eraseIdx i) := fun w hw => h w (List.mem_of_mem_eraseIdx hw)
  refine rejected_of_malformed herase.received herase.isWord ?_
  rw [herase.map_toUpperAscii]
  exact hshape i hi

/-- A command of plain words with a token appended, if a word more is malformed. -/
theorem rejected_append {words : List Text} (h : PlainWords words) (hne : words ≠ [])
    (hshape : ∀ w, Malformed (words ++ [w])) {token : Text} (htoken : IsToken token) :
    Rejected (joined words ++ ' ' :: token) := by
  refine rejected_of_malformed (h.received_append hne htoken) ?_ ?_
  · intro w hw
    rcases List.mem_append.mp hw with hw | hw
    · exact h.isWord w hw
    · rw [List.mem_singleton.mp hw]
      exact htoken.isWord_arrived
  · rw [List.map_append, h.map_toUpperAscii]
    exact hshape _

/-! ## The commands of the gateway -/

/-- The values of a validated configuration, with the number of its filter. -/
def installationValues (c : InstallationConfiguration) (filter : ℤ) : List ℤ :=
  [c.sampleIntervalMs, c.processingIntervalMs, c.reportIntervalMs, c.heartbeatIntervalMs, filter,
    c.filterWindow, 1]

/-- The words of a provisioning command. -/
def provisionWords (transactionId nodeId : Text) (values : List ℤ) : List Text :=
  "PROV".toList :: "1".toList :: transactionId :: nodeId :: values.map str

/-- The words of a configuration command. -/
def configureWords (transactionId : Text) (values : List ℤ) : List Text :=
  "CFGSET".toList :: "1".toList :: transactionId :: values.map str

/-- Every value of a validated configuration is within the node's bounds. -/
theorem installation_inBounds (c : InstallationConfiguration) {filter : ℤ}
    (hfilter : FILTERS c.filterType = some filter) :
    ValuesInBounds c.sampleIntervalMs c.processingIntervalMs c.reportIntervalMs
      c.heartbeatIntervalMs filter c.filterWindow 1 := by
  have hrange : 0 ≤ filter ∧ filter ≤ 3 := by
    cases hname : c.filterType <;> rw [hname] at hfilter <;> cases hfilter <;> decide
  exact ⟨c.sample_bounds, c.process_bounds, c.report_bounds, c.heartbeat_bounds, hrange,
    c.window_bounds, by decide⟩

theorem configurationValues_modelDump (c : InstallationConfiguration) {filter : ℤ}
    (hfilter : FILTERS c.filterType = some filter) :
    configurationValues c.modelDump = .ok (installationValues c filter) := by
  unfold configurationValues
  rw [show c.modelDump.filterType = c.filterType by rfl, hfilter]
  rfl

/-- The printed values are plain words, and at most 29 characters with the spaces after them. -/
theorem printed_values (c : InstallationConfiguration) {filter : ℤ}
    (hfilter : FILTERS c.filterType = some filter) :
    PlainWords ((installationValues c filter).map str) ∧
      offset ((installationValues c filter).map str) ≤ 29 := by
  obtain ⟨hsample, hprocess, hreport, hheartbeat, hrange, hwindow, -⟩ :=
    installation_inBounds c hfilter
  constructor
  · intro w hw
    obtain ⟨z, hz, rfl⟩ := List.mem_map.mp hw
    refine plain_str ?_
    simp only [installationValues, List.mem_cons, List.not_mem_nil, or_false] at hz
    omega
  · have h1 := length_str_le (k := 4) (by decide) (z := c.sampleIntervalMs) (by omega)
    have h2 := length_str_le (k := 4) (by decide) (z := c.processingIntervalMs) (by omega)
    have h3 := length_str_le (k := 4) (by decide) (z := c.reportIntervalMs) (by omega)
    have h4 := length_str_le (k := 7) (by decide) (z := c.heartbeatIntervalMs) (by omega)
    have h5 := length_str_le (k := 1) (by decide) (z := filter) (by omega)
    have h6 := length_str_le (k := 1) (by decide) (z := c.filterWindow) (by omega)
    have h7 : (str 1).length = 1 := by decide
    simp only [installationValues, List.map_cons, List.map_nil, offset_cons, offset_nil]
    omega

/-- What the node makes of a provisioning command: its parts, read without loss. -/
def ReadsProvision (command transactionId nodeId : Text) (values : List ℤ) : Prop :=
  ∃ k tokens staged,
    provisionHeader command = some (transactionId, k) ∧
    provisionBody command k = some (nodeId, tokens) ∧
    validNodeId nodeId = true ∧
    stagedConfiguration tokens = some staged ∧ storedValues staged = values ∧
    ∀ (n : Node) (now : UInt32), n.factoryResetController.busy = false →
      n.writeCommand command now = n.commitProvision transactionId nodeId tokens now

/-- What the node makes of a configuration command: its parts, read without loss. -/
def ReadsConfiguration (command transactionId : Text) (values : List ℤ) : Prop :=
  ∃ tokens staged,
    configurationHeader command = some (transactionId, tokens) ∧
    stagedConfiguration tokens = some staged ∧ storedValues staged = values ∧
    ∀ (n : Node) (now : UInt32), n.factoryResetController.busy = false → n.bootstrapOnly = false →
      n.writeCommand command now = n.commitConfiguration transactionId tokens now

/-- The node refuses a command with any token removed or any token appended. -/
def RefusesOtherCounts (command : Text) : Prop :=
  (∀ i < (command.splitOn ' ').length,
      Rejected ([' '].intercalate ((command.splitOn ' ').eraseIdx i))) ∧
    ∀ token, IsToken token → Rejected (command ++ ' ' :: token)

/-- A command with a token removed or appended is refused, if its name asks for an exact count. -/
theorem refusesOtherCounts {name : Text} {words : List Text} {count : ℕ}
    (hmalformed : ∀ {rest : List Text}, rest ≠ [] → rest.length ≠ count → Malformed (name :: rest))
    (hcount : words.length = count) (hlong : 3 ≤ count)
    (hversion : words.head? = some "1".toList) (h : PlainWords (name :: words)) :
    RefusesOtherCounts (joined (name :: words)) := by
  have hne : words ≠ [] := by
    rintro rfl
    cases hversion
  constructor
  · refine rejected_erase h (by simp) ?_
    intro i hi
    cases i with
    | zero =>
      obtain ⟨rest, rfl⟩ := List.head?_eq_some_iff.mp hversion
      rw [List.eraseIdx_cons_zero]
      refine .headless ?_
      rintro rfl
      simp only [List.length_cons, List.length_nil] at hcount
      omega
    | succ i =>
      have hlength : (words.eraseIdx i).length = count - 1 := by
        rw [List.length_eraseIdx_of_lt (by simpa using hi), hcount]
      rw [List.eraseIdx_cons_succ]
      refine hmalformed ?_ (by omega)
      intro hnil
      rw [hnil, List.length_nil] at hlength
      omega
  · intro token htoken
    refine rejected_append h (by simp) (fun w => ?_) htoken
    rw [List.cons_append]
    refine hmalformed (by simp) ?_
    simp only [List.length_append, List.length_singleton]
    omega

/-- The node takes a well-formed provisioning command as it was sent. -/
theorem writeCommand_provision {transactionId nodeId : Text} {tokens : SettingTokens} {k : ℕ}
    {words : List Text} (h : PlainWords ("PROV".toList :: words)) (hne : words ≠ [])
    (hfits : (joined ("PROV".toList :: words)).length < Node.pendingBleCommandSize)
    (hheader : provisionHeader (joined ("PROV".toList :: words)) = some (transactionId, k))
    (hbody : provisionBody (joined ("PROV".toList :: words)) k = some (nodeId, tokens))
    (hid : validNodeId nodeId = true) (n : Node) (now : UInt32)
    (hbusy : n.factoryResetController.busy = false) :
    n.writeCommand (joined ("PROV".toList :: words)) now =
      n.commitProvision transactionId nodeId tokens now := by
  have hprov : "PROV ".toList.isPrefixOf (joined ("PROV".toList :: words)) = true :=
    isPrefixOf_line (show ' ' ∉ "PROV".toList by decide) h.isWord hne
  have hprovget : isProvget (joined ("PROV".toList :: words)) = false :=
    isPrefixOf_line (show ' ' ∉ "PROVGET".toList by decide) h.isWord hne
  have hboot : kBootstrapPrefix.isPrefixOf (joined ("PROV".toList :: words)) = false :=
    isPrefixOf_line (show ' ' ∉ "MG24BOOT1".toList by decide) h.isWord hne
  rw [Node.writeCommand, if_neg (by omega), handleCommand_eq]
  unfold commandAction
  dsimp only
  rw [h.received, hboot, toUpperAscii_joined, h.map_toUpperAscii]
  unfold provisionAction
  simp only [hprov, hprovget, hbusy, hheader, hbody, hid, Bool.not_true, Bool.and_false,
    Bool.false_and, Bool.false_eq_true, if_false]
  rfl

/-- The node takes a well-formed configuration command as it was sent. -/
theorem writeCommand_configuration {transactionId : Text} {tokens : SettingTokens}
    {words : List Text} (h : PlainWords ("CFGSET".toList :: words)) (hne : words ≠ [])
    (hfits : (joined ("CFGSET".toList :: words)).length < Node.pendingBleCommandSize)
    (hheader : configurationHeader (joined ("CFGSET".toList :: words)) =
      some (transactionId, tokens)) (n : Node) (now : UInt32)
    (hbusy : n.factoryResetController.busy = false) (hopen : n.bootstrapOnly = false) :
    n.writeCommand (joined ("CFGSET".toList :: words)) now =
      n.commitConfiguration transactionId tokens now := by
  have hprov : "PROV ".toList.isPrefixOf (joined ("CFGSET".toList :: words)) = false :=
    isPrefixOf_line (show ' ' ∉ "PROV".toList by decide) h.isWord hne
  have hprovget : isProvget (joined ("CFGSET".toList :: words)) = false :=
    isPrefixOf_line (show ' ' ∉ "PROVGET".toList by decide) h.isWord hne
  have hcfgset : "CFGSET ".toList.isPrefixOf (joined ("CFGSET".toList :: words)) = true :=
    isPrefixOf_line (show ' ' ∉ "CFGSET".toList by decide) h.isWord hne
  have hboot : kBootstrapPrefix.isPrefixOf (joined ("CFGSET".toList :: words)) = false :=
    isPrefixOf_line (show ' ' ∉ "MG24BOOT1".toList by decide) h.isWord hne
  rw [Node.writeCommand, if_neg (by omega), handleCommand_eq]
  unfold commandAction
  dsimp only
  rw [h.received, hboot, toUpperAscii_joined, h.map_toUpperAscii]
  unfold provisionAction configurationAction
  simp only [hprov, hprovget, hcfgset, hbusy, hopen, hheader, Bool.not_true, Bool.not_false,
    Bool.and_self, Bool.false_and, Bool.or_self, Bool.false_eq_true, if_false, if_true]
  rfl

/-- The word of a literal is plain when its characters are. -/
theorem isPlain_literal (name : String)
    (h : name.toList ≠ [] ∧ name.toList.all isPlain = true) :
    name.toList ≠ [] ∧ ∀ c ∈ name.toList, isPlain c = true :=
  ⟨h.1, List.all_eq_true.mp h.2⟩

/-- The words of both commands are plain, and the commands fit the buffer. -/
theorem plain_command (name : Text) {transactionId : Text} {middle values : List Text}
    (hname : name ≠ [] ∧ ∀ c ∈ name, isPlain c = true)
    (htransaction : transactionIdPattern transactionId = true)
    (hmiddle : PlainWords middle) (hvalues : PlainWords values) :
    PlainWords (name :: "1".toList :: Text.toUpperAscii transactionId :: (middle ++ values)) := by
  obtain ⟨hlength, hplain⟩ := plain_of_transactionIdPattern htransaction
  have hne : Text.toUpperAscii transactionId ≠ [] := by
    rw [← List.length_pos_iff]
    omega
  intro w hw
  simp only [List.mem_cons, List.mem_append] at hw
  rcases hw with rfl | rfl | rfl | hw | hw
  · exact hname
  · exact isPlain_literal "1" (by decide +kernel)
  · exact ⟨hne, hplain⟩
  · exact hmiddle w hw
  · exact hvalues w hw

/-- The gateway's provisioning command, word by word. -/
theorem provisionCommand_eq (c : InstallationConfiguration) {filter : ℤ}
    (hfilter : FILTERS c.filterType = some filter) {nodeId transactionId : Text}
    (hpattern : nodeIdPattern nodeId = true) (hlength : nodeId.length ≤ 31)
    (htransaction : transactionIdPattern transactionId = true) :
    provisionCommand nodeId transactionId c.modelDump = .ok (joined ("PROV".toList ::
        "1".toList :: Text.toUpperAscii transactionId ::
          ([nodeId] ++ (installationValues c filter).map str))) ∧
      (joined ("PROV".toList :: "1".toList :: Text.toUpperAscii transactionId ::
        ([nodeId] ++ (installationValues c filter).map str))).length ≤ maximumCommandLength := by
  have hvalues := (printed_values c hfilter).2
  have hupper := (plain_of_transactionIdPattern htransaction).1
  have hbound : (joined ("PROV".toList :: "1".toList :: Text.toUpperAscii transactionId ::
      ([nodeId] ++ (installationValues c filter).map str))).length ≤ maximumCommandLength := by
    have hline := length_joined ("PROV".toList :: "1".toList ::
      Text.toUpperAscii transactionId :: ([nodeId] ++ (installationValues c filter).map str))
      (by simp)
    have hprov : "PROV".toList.length = 4 := by rfl
    have hone : "1".toList.length = 1 := by rfl
    simp only [offset_cons, offset_append, offset_nil, hprov, hone] at hline
    rw [maximumCommandLength]
    omega
  have htext : joined ("PROV".toList :: "1".toList :: Text.toUpperAscii transactionId ::
      ([nodeId] ++ (installationValues c filter).map str)) =
      "PROV 1 ".toList ++ Text.toUpperAscii transactionId ++ " ".toList ++ nodeId ++
        " ".toList ++ [' '].intercalate ((installationValues c filter).map str) := by
    rw [List.singleton_append, joined_cons_cons, joined_cons_cons, joined_cons_cons,
      installationValues, List.map_cons, joined_cons_cons]
    simp [joined]
  refine ⟨?_, hbound⟩
  rw [htext] at hbound ⊢
  unfold provisionCommand
  rw [hpattern, htransaction, configurationValues_modelDump c hfilter]
  simp only [Bool.not_true, Bool.false_or, gt_iff_lt, decide_eq_true_eq, Bool.false_eq_true,
    if_false]
  rw [if_neg (by omega)]
  show (if _ then _ else _ : Except BleProvisioningError Text) = _
  rw [if_neg (by omega)]
  rfl

/-- The gateway's configuration command, word by word. -/
theorem configureCommand_eq (c : InstallationConfiguration) {filter : ℤ}
    (hfilter : FILTERS c.filterType = some filter) {transactionId : Text}
    (htransaction : transactionIdPattern transactionId = true) :
    configureCommand transactionId c.modelDump = .ok (joined ("CFGSET".toList ::
        "1".toList :: Text.toUpperAscii transactionId ::
          ([] ++ (installationValues c filter).map str))) ∧
      (joined ("CFGSET".toList :: "1".toList :: Text.toUpperAscii transactionId ::
        ([] ++ (installationValues c filter).map str))).length ≤ maximumCommandLength := by
  have hvalues := (printed_values c hfilter).2
  have hupper := (plain_of_transactionIdPattern htransaction).1
  have hbound : (joined ("CFGSET".toList :: "1".toList :: Text.toUpperAscii transactionId ::
      ([] ++ (installationValues c filter).map str))).length ≤ maximumCommandLength := by
    have hline := length_joined ("CFGSET".toList :: "1".toList ::
      Text.toUpperAscii transactionId :: ([] ++ (installationValues c filter).map str))
      (by simp)
    have hcfgset : "CFGSET".toList.length = 6 := by rfl
    have hone : "1".toList.length = 1 := by rfl
    simp only [offset_cons, offset_append, offset_nil, hcfgset, hone] at hline
    rw [maximumCommandLength]
    omega
  have htext : joined ("CFGSET".toList :: "1".toList :: Text.toUpperAscii transactionId ::
      ([] ++ (installationValues c filter).map str)) =
      "CFGSET 1 ".toList ++ Text.toUpperAscii transactionId ++ " ".toList ++
        [' '].intercalate ((installationValues c filter).map str) := by
    rw [List.nil_append, joined_cons_cons, joined_cons_cons, installationValues, List.map_cons,
      joined_cons_cons]
    simp [joined]
  refine ⟨?_, hbound⟩
  rw [htext] at hbound ⊢
  unfold configureCommand
  rw [htransaction, configurationValues_modelDump c hfilter]
  simp only [Bool.not_true, Bool.false_eq_true, if_false]
  show (if _ then _ else _ : Except BleProvisioningError Text) = _
  rw [if_neg (by omega)]
  rfl

/-- A provisioning command is read without loss. -/
theorem readsProvision {transactionId nodeId : Text}
    {sample process report heartbeat filter window enabled : ℤ}
    (hbounds : ValuesInBounds sample process report heartbeat filter window enabled)
    (hid : validNodeId nodeId = true)
    (hlength : 16 ≤ transactionId.length ∧ transactionId.length ≤ 24)
    (h : PlainWords ("PROV".toList :: "1".toList :: transactionId :: ([nodeId] ++
      [sample, process, report, heartbeat, filter, window, enabled].map str)))
    (hfits : (joined ("PROV".toList :: "1".toList :: transactionId :: ([nodeId] ++
      [sample, process, report, heartbeat, filter, window, enabled].map str))).length <
        Node.pendingBleCommandSize) :
    ReadsProvision (joined ("PROV".toList :: "1".toList :: transactionId :: ([nodeId] ++
      [sample, process, report, heartbeat, filter, window, enabled].map str)))
      transactionId nodeId [sample, process, report, heartbeat, filter, window, enabled] := by
  obtain ⟨staged, hstaged, hstored⟩ := stagedConfiguration_str hbounds
  have hprovget := isPrefixOf_line (show ' ' ∉ "PROVGET".toList by decide) h.isWord (by simp)
  have hremaining := remaining_joined "PROV".toList fun w hw => h.isWord w (List.mem_cons_of_mem _ hw)
  obtain ⟨k₁, hversion, hremaining⟩ := nextCommandToken_remaining hremaining
  obtain ⟨k₂, htransaction, hremaining⟩ := nextCommandToken_remaining hremaining
  have hbody := provisionBody_remaining hremaining
  have hheader : provisionHeader (joined ("PROV".toList :: "1".toList :: transactionId ::
      ([nodeId] ++ [sample, process, report, heartbeat, filter, window, enabled].map str))) =
      some (transactionId, k₂) := by
    have hvalid : validTransaction "1".toList transactionId = true := by
      simp only [validTransaction, decide_eq_true_eq]
      exact ⟨trivial, by omega, by omega⟩
    have hstart : isProvget (joined ("PROV".toList :: "1".toList :: transactionId ::
        ([nodeId] ++ [sample, process, report, heartbeat, filter, window, enabled].map str))) =
        false := hprovget
    have hfirst : nextCommandToken (joined ("PROV".toList :: "1".toList :: transactionId ::
        ([nodeId] ++ [sample, process, report, heartbeat, filter, window, enabled].map str))) 5 =
        some ("1".toList, k₁) := hversion
    unfold provisionHeader
    rw [hstart, if_neg Bool.false_ne_true, hfirst]
    simp only [Option.bind_eq_bind, Option.bind_some, htransaction, hvalid, if_true]
  exact ⟨k₂, _, staged, hheader, hbody, hid, hstaged, hstored,
    writeCommand_provision h (by simp) hfits hheader hbody hid⟩

/-- A configuration command is read without loss. -/
theorem readsConfiguration {transactionId : Text}
    {sample process report heartbeat filter window enabled : ℤ}
    (hbounds : ValuesInBounds sample process report heartbeat filter window enabled)
    (hlength : 16 ≤ transactionId.length ∧ transactionId.length ≤ 24)
    (h : PlainWords ("CFGSET".toList :: "1".toList :: transactionId :: ([] ++
      [sample, process, report, heartbeat, filter, window, enabled].map str)))
    (hfits : (joined ("CFGSET".toList :: "1".toList :: transactionId :: ([] ++
      [sample, process, report, heartbeat, filter, window, enabled].map str))).length <
        Node.pendingBleCommandSize) :
    ReadsConfiguration (joined ("CFGSET".toList :: "1".toList :: transactionId :: ([] ++
      [sample, process, report, heartbeat, filter, window, enabled].map str)))
      transactionId [sample, process, report, heartbeat, filter, window, enabled] := by
  obtain ⟨staged, hstaged, hstored⟩ := stagedConfiguration_str hbounds
  have hremaining :=
    remaining_joined "CFGSET".toList fun w hw => h.isWord w (List.mem_cons_of_mem _ hw)
  have hheader := configurationHeader_remaining ⟨by omega, hlength.2⟩ hremaining
  exact ⟨_, staged, hheader, hstaged, hstored,
    writeCommand_configuration h (by simp) hfits hheader⟩

/-- **Gateway command text and node tokenizer agree.**  For every validated configuration the
gateway's commands fit the node's buffer, the node reads exactly the values they were built from,
all of them within its bounds, and it refuses either command with a token removed or appended.
SOURCE: ble_provisioning.py:87-179; xiao_mg24_sensor_node.ino:159-175, 235-349 -/
theorem commandText_agrees (c : InstallationConfiguration) {filter : ℤ}
    (hfilter : FILTERS c.filterType = some filter) {nodeId transactionId : Text}
    (hpattern : nodeIdPattern nodeId = true) (hlength : nodeId.length ≤ 31)
    (htransaction : transactionIdPattern transactionId = true) :
    ∃ provision configure,
      provisionCommand nodeId transactionId c.modelDump = .ok provision ∧
      configureCommand transactionId c.modelDump = .ok configure ∧
      provision.length < Node.pendingBleCommandSize ∧
      configure.length < Node.pendingBleCommandSize ∧
      ReadsProvision provision (Text.toUpperAscii transactionId) nodeId
        (installationValues c filter) ∧
      ReadsConfiguration configure (Text.toUpperAscii transactionId)
        (installationValues c filter) ∧
      RefusesOtherCounts provision ∧ RefusesOtherCounts configure := by
  obtain ⟨hprovision, hprovisionFits⟩ :=
    provisionCommand_eq c hfilter hpattern hlength htransaction
  obtain ⟨hconfigure, hconfigureFits⟩ := configureCommand_eq c hfilter htransaction
  have hid := validNodeId_of_pattern hpattern hlength
  have hplainValues := (printed_values c hfilter).1
  have hplainId : PlainWords [nodeId] := by
    intro w hw
    rw [List.mem_singleton.mp hw]
    exact plain_of_validNodeId hid
  have hplainProvision := plain_command "PROV".toList (isPlain_literal "PROV" (by decide +kernel))
    htransaction hplainId hplainValues
  have hplainConfigure := plain_command "CFGSET".toList (isPlain_literal "CFGSET" (by decide +kernel))
    htransaction (show PlainWords [] by intro w hw; cases hw) hplainValues
  have hupper := (plain_of_transactionIdPattern htransaction).1
  have hfits : ∀ {line : Text}, line.length ≤ maximumCommandLength →
      line.length < Node.pendingBleCommandSize := fun h => Nat.lt_succ_of_le h
  refine ⟨_, _, hprovision, hconfigure, hfits hprovisionFits, hfits hconfigureFits, ?_, ?_, ?_, ?_⟩
  · exact readsProvision (installation_inBounds c hfilter) hid hupper hplainProvision
      (hfits hprovisionFits)
  · exact readsConfiguration (installation_inBounds c hfilter) hupper hplainConfigure
      (hfits hconfigureFits)
  · exact refusesOtherCounts .provision (by simp [installationValues]) (by decide) rfl
      hplainProvision
  · exact refusesOtherCounts .configuration (by simp [installationValues]) (by decide) rfl
      hplainConfigure

/-- The schema's defaults, with a moving average.
SOURCE: schemas.py:255-260 -/
def defaultInstallation : InstallationConfiguration where
  sampleIntervalMs := 100
  processingIntervalMs := 100
  reportIntervalMs := 100
  heartbeatIntervalMs := 30000
  filterType := .movingAverage
  filterWindow := 1
  sample_bounds := by decide
  process_bounds := by decide
  report_bounds := by decide
  heartbeat_bounds := by decide
  window_bounds := by decide

/-- The command of a default configuration, read back. -/
theorem commandText_agrees_default :
    ReadsProvision "PROV 1 0123456789ABCDEF MG24-01 100 100 100 30000 1 1 1".toList
        "0123456789ABCDEF".toList "MG24-01".toList [100, 100, 100, 30000, 1, 1, 1] ∧
      RefusesOtherCounts "PROV 1 0123456789ABCDEF MG24-01 100 100 100 30000 1 1 1".toList := by
  obtain ⟨provision, _, hprovision, _, _, _, hreads, _, hrefuses, _⟩ :=
    commandText_agrees defaultInstallation (show FILTERS .movingAverage = some 1 by rfl)
      (show nodeIdPattern "MG24-01".toList = true by decide +kernel) (by decide)
      (show transactionIdPattern "0123456789abcdef".toList = true by decide +kernel)
  have htext : provision =
      "PROV 1 0123456789ABCDEF MG24-01 100 100 100 30000 1 1 1".toList := by
    have hcommand : provisionCommand "MG24-01".toList "0123456789abcdef".toList
        defaultInstallation.modelDump =
        .ok "PROV 1 0123456789ABCDEF MG24-01 100 100 100 30000 1 1 1".toList := by decide +kernel
    rw [hcommand] at hprovision
    exact (Except.ok.inj hprovision).symm
  rw [htext] at hreads hrefuses
  exact ⟨hreads, hrefuses⟩

end SeedMg24.Analysis
