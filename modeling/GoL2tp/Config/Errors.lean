import GoL2tp.Config.Decode

/-!
# What `newConfig`'s errors say

Every loop of the loader (src/unnamed/part_000:177-300) stops at the first
entry it cannot take, with a message naming that entry: the key of a
tunnel's or a session's table, inside the name of the tunnel or session
whose table it is. For every tree and every iteration order, each error
`newConfig` returns is built from the loader's own messages, and every name
and key it carries is an entry of the tree where it says, and each cause
it gives is the failure of that key's own decoder on that key's value: the
error points at what to fix in the file.

`KeyBlamed` is an error of a table's `switch` loop: a key outside the
`switch`'s cases, or a key whose decoder failed on its value, with the
decoder's error as the cause. `sessionDecoders` and `tunnelDecoders` list
the cases and their decoders; a tunnel's `session` key fails as
`loadSessions` does (`SessionsBlamed`), and `TunnelsBlamed` is an error of
`loadTunnels`. Each is read off the loop's `return` statements. The success
side is `Config.Spec`.

Results: `newConfig_error_blames`.
-/
namespace GoL2tp.Config

/-- A decoder failed on a value, with `cause` as its error. -/
def FailsWith {α : Type} (dec : Value → Except String α) (v : Value) (cause : String) : Prop :=
  dec v = .error cause

/-- An error of a table's `switch` loop over the keys `decoders` knows: it
names a key of the table, either one the `switch` has no case for, as an
unrecognised parameter, or one whose decoder failed on the key's value,
with that failure as the cause. -/
def KeyBlamed (decoders : String → Option (Value → String → Prop)) (m : List (String × Value)) (e : String) :
    Prop :=
  ∃ k v, (k, v) ∈ m ∧
    ((decoders k = none ∧ e = s!"unrecognised parameter \x27{k}\x27") ∨
      ∃ fails cause, decoders k = some fails ∧ fails v cause ∧ e = s!"failed to process {k}: {cause}")

/-- The cases of `newSessionConfig`'s `switch`, each key with the way its
decoder fails. -/
def sessionDecoders : String → Option (Value → String → Prop)
  | "sid" | "psid" => some (FailsWith toCCID)
  | "pseudowire" => some (FailsWith toPseudowireType)
  | "seqnum" => some (FailsWith toBool)
  | "reorder_timeout" => some (FailsWith toDurationMs)
  | "cookie" | "peer_cookie" => some (FailsWith toBytes)
  | "interface_name" => some (FailsWith toString)
  | "l2spec_type" => some (FailsWith toL2SpecType)
  | _ => none

/-- An error of `loadSessions` on the value of a tunnel's `session` key. -/
def SessionsBlamed (v : Value) (e : String) : Prop :=
  ((∀ m, v ≠ .map m) ∧ e = "session instances must be named, e.g. \x27[tunnel.mytunnel.session.mysession]\x27") ∨
  ∃ ss name got, v = .map ss ∧ (name, got) ∈ ss ∧
    (((∀ m, got ≠ .map m) ∧ e = s!"config for session {name} isn\x27t a map") ∨
      ∃ sm cause, got = .map sm ∧ e = s!"session {name}: {cause}" ∧ KeyBlamed sessionDecoders sm cause)

/-- The cases of `newTunnelConfig`'s `switch`; the `session` key fails as
`loadSessions` does. -/
def tunnelDecoders : String → Option (Value → String → Prop)
  | "local" | "peer" => some (FailsWith toString)
  | "encap" => some (FailsWith toEncapType)
  | "version" => some (FailsWith toVersion)
  | "tid" | "ptid" => some (FailsWith toCCID)
  | "session" => some SessionsBlamed
  | _ => none

/-- An error of `loadTunnels`. -/
def TunnelsBlamed (cm : List (String × Value)) (e : String) : Prop :=
  (GoMap.lookup "tunnel" cm = none ∧ e = "no tunnel table present") ∨
  (∃ v, GoMap.lookup "tunnel" cm = some v ∧ (∀ m, v ≠ .map m) ∧
    e = "tunnel instances must be named, e.g. \x27[tunnel.mytunnel]\x27") ∨
  ∃ ts name got, GoMap.lookup "tunnel" cm = some (.map ts) ∧ (name, got) ∈ ts ∧
    (((∀ m, got ≠ .map m) ∧ e = s!"config for tunnel {name} isn\x27t a map") ∨
      ∃ tm cause, got = .map tm ∧ e = s!"tunnel {name}: {cause}" ∧ KeyBlamed tunnelDecoders tm cause)

/-! ## One loop -/

/-- A loop that fails, fails in the body at one of its entries. -/
theorem rangeM_error {σ : Type} {body : String → Value → σ → Except String σ} {l : List (String × Value)}
    {s : σ} {e : String} (h : rangeM body l s = .error e) : ∃ k v s', (k, v) ∈ l ∧ body k v s' = .error e := by
  induction l generalizing s with
  | nil => cases h
  | cons p l ih =>
    obtain ⟨k, v⟩ := p
    simp only [rangeM] at h
    split at h
    · rename_i he
      cases h
      exact ⟨k, v, s, .head _, he⟩
    · obtain ⟨k', v', s', hm, hb⟩ := ih h
      exact ⟨k', v', s', .tail _ hm, hb⟩

/-- Through an iteration order, the failing entry is one of the table's. -/
theorem rangeM_ord_error {σ : Type} {ord : Iter} (hord : ord.OK) {body : String → Value → σ → Except String σ}
    {path : List String} {l : List (String × Value)} {s : σ} {e : String}
    (h : rangeM body (ord path l) s = .error e) : ∃ k v s', (k, v) ∈ l ∧ body k v s' = .error e :=
  let ⟨k, v, s', hm, hb⟩ := rangeM_error h
  ⟨k, v, s', (hord path l).mem_iff.1 hm, hb⟩

theorem processed_error {α σ : Type} {k : String} {r : Except String α} {set : α → σ} {e : String}
    (h : processed k r set = .error e) : ∃ cause : String, r = .error cause ∧ e = s!"failed to process {k}: {cause}" := by
  cases hr : r with
  | ok x => simp [processed, hr] at h
  | error cause => simp only [processed, hr, Except.error.injEq] at h; exact ⟨cause, rfl, h.symm⟩

/-! ## Sessions -/

theorem sessionKey_error {k : String} {v : Value} {sc : SessionConfig} {e : String}
    (h : sessionKey k v sc = .error e) :
    (sessionDecoders k = none ∧ e = s!"unrecognised parameter \x27{k}\x27") ∨
      ∃ fails cause, sessionDecoders k = some fails ∧ fails v cause ∧ e = s!"failed to process {k}: {cause}" := by
  unfold sessionKey at h
  split at h
  -- the tenth case is the default
  case h_10 =>
    refine .inl ⟨?_, (Except.error.inj h).symm⟩
    unfold sessionDecoders
    split <;> first | rfl | simp_all
  all_goals
    obtain ⟨cause, hc, rfl⟩ := processed_error h
    exact .inr ⟨_, cause, rfl, hc, rfl⟩

theorem loadSessions_error {ord : Iter} (hord : ord.OK) {path : List String} {v : Value} {t : TunnelConfig}
    {e : String} (h : loadSessions ord path v t = .error e) : SessionsBlamed v e := by
  cases v with
  | map ss =>
    obtain ⟨name, got, t', hm, hb⟩ := rangeM_ord_error hord h
    refine .inr ⟨ss, name, got, rfl, hm, ?_⟩
    cases got with
    | map sm =>
      simp only [sessionEntry] at hb
      split at hb
      · cases hb
      · rename_i cause he
        cases hb
        obtain ⟨k, v, sc, hk, hkb⟩ := rangeM_ord_error hord he
        exact .inr ⟨sm, cause, rfl, rfl, k, v, hk, sessionKey_error hkb⟩
    | _ => cases hb; exact .inl ⟨nofun, rfl⟩
  | _ => cases h; exact .inl ⟨nofun, rfl⟩

/-! ## Tunnels -/

theorem tunnelKey_error {ord : Iter} (hord : ord.OK) {path : List String} {k : String} {v : Value}
    {tc : TunnelConfig} {e : String} (h : tunnelKey ord path k v tc = .error e) :
    (tunnelDecoders k = none ∧ e = s!"unrecognised parameter \x27{k}\x27") ∨
      ∃ fails cause, tunnelDecoders k = some fails ∧ fails v cause ∧ e = s!"failed to process {k}: {cause}" := by
  unfold tunnelKey at h
  split at h
  -- the seventh case is `session`, the eighth the default
  case h_7 =>
    obtain ⟨cause, hc, rfl⟩ := processed_error h
    exact .inr ⟨_, cause, rfl, loadSessions_error hord hc, rfl⟩
  case h_8 =>
    refine .inl ⟨?_, (Except.error.inj h).symm⟩
    unfold tunnelDecoders
    split <;> first | rfl | simp_all
  all_goals
    obtain ⟨cause, hc, rfl⟩ := processed_error h
    exact .inr ⟨_, cause, rfl, hc, rfl⟩

/-- **Every error of the loader points into the tree.** For every tree and
every iteration order, an error of `newConfig` is `failed to parse tunnels`
around one of `loadTunnels`' errors: the tunnel table is missing or not a
table, or an entry of it is not a table, or a key of a tunnel present in
the tree (and, under its `session` key, of a session present in the tree)
is not one of the `switch`'s, or its decoder failed on its value with the
cause the message gives; each message names that tunnel, session and key. -/
theorem newConfig_error_blames {ord : Iter} (hord : ord.OK) {cm : List (String × Value)} {e : String}
    (h : newConfig ord cm = .error e) :
    ∃ cause : String, e = s!"failed to parse tunnels: {cause}" ∧ TunnelsBlamed cm cause := by
  unfold newConfig at h
  split at h
  · cases h
  rename_i cause hl
  cases h
  refine ⟨cause, rfl, ?_⟩
  unfold loadTunnels at hl
  split at hl
  · rename_i ts hts
    obtain ⟨name, got, t', hm, hb⟩ := rangeM_ord_error hord hl
    refine .inr (.inr ⟨ts, name, got, hts, hm, ?_⟩)
    cases got with
    | map tm =>
      simp only [tunnelEntry] at hb
      split at hb
      · cases hb
      · rename_i detail he
        cases hb
        obtain ⟨k, v, tc, hk, hkb⟩ := rangeM_ord_error hord he
        exact .inr ⟨tm, detail, rfl, rfl, k, v, hk, tunnelKey_error hord hkb⟩
    | _ => cases hb; exact .inl ⟨nofun, rfl⟩
  · rename_i v _ _
    cases hl
    exact .inr (.inl ⟨v, ‹_›, ‹∀ _, _›, rfl⟩)
  · rename_i hn
    cases hl
    exact .inl ⟨hn, rfl⟩

/-- A tunnel with an `mtu` key, which the loader does not know. -/
def mtuTree : List (String × Value) := [("tunnel", .map [("t1", .map [("mtu", .uint64 1400)])])]

theorem newConfig_error_blames_mtu :
    ∃ cause : String, "failed to parse tunnels: tunnel t1: unrecognised parameter \x27mtu\x27" =
      s!"failed to parse tunnels: {cause}" ∧ TunnelsBlamed mtuTree cause :=
  newConfig_error_blames Iter.listed_ok
    (rfl : newConfig Iter.listed mtuTree = .error "failed to parse tunnels: tunnel t1: unrecognised parameter \x27mtu\x27")

end GoL2tp.Config
