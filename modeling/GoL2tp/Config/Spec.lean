import GoL2tp.Config.Decode

/-!
# What `newConfig` accepts, and what it returns

The configuration language, written from what each key means rather than
from the loader's loops: `validTree` is the grammar (the keys each table may
hold and what each value must be) and `specConfig` the configuration a tree
denotes (every field is the value of its key, or zero when the key is
absent). Both read tables through `GoMap.lookup`, so neither depends on an
order of the entries.

Each loop of the loader is a `rangeM` whose body, run on the state the
entries seen so far denote, either adds the next entry's meaning or fails on
an entry outside the grammar (`sessionKey_step`, `tunnelKey_step`,
`sessionEntry_step`, `tunnelEntry_step`). `rangeM_toOption` turns such a step
into the whole loop, and `rangeM_iter` takes the loop from the runtime's
order back to the listed one.

Results:
* `newConfig_toOption`: for every iteration order, `newConfig` succeeds
  exactly on the trees of the grammar, and returns `specConfig`.
* `newConfig_decodes`: the same, read as `NewConfigSpec`: success iff the
  tree is in the grammar, the denoted configuration on success, and the same
  outcome and configuration under any two orders.
-/
namespace GoL2tp.Config

/-! ## What a value denotes -/

/-- A TOML integer, which `ToMap` gives as an `int64` or a `uint64`. -/
def Value.int? : Value → Option Int
  | .int64 i => some i
  | .uint64 n => some n
  | _ => none

/-- An integer in `[0, hi]`. -/
def Value.upTo (hi : Nat) (v : Value) : Option Nat :=
  v.int?.bind fun i => if 0 ≤ i ∧ i ≤ hi then some i.toNat else none

/-- A `uint32`: an integer in `[0, 2^32-1]`. -/
def Value.u32? (v : Value) : Option UInt32 := (v.upTo 0xffffffff).map UInt32.ofNat

/-- That many milliseconds, as a `time.Duration` (nanoseconds). -/
def Value.ms? (v : Value) : Option Duration := (v.upTo 0xffffffff).map fun n => n * 1000000

/-- A byte: an integer in `[0, 255]`. -/
def Value.byte? (v : Value) : Option UInt8 := (v.upTo 0xff).map UInt8.ofNat

/-- An array every element of which is a byte: the bytes, element for element. -/
def Value.bytes? : Value → Option (List UInt8)
  | .array vs => if vs.all fun v => v.byte?.isSome then some (vs.filterMap Value.byte?) else none
  | _ => none

def Value.str? : Value → Option String
  | .string s => some s
  | _ => none

def Value.bool? : Value → Option Bool
  | .bool b => some b
  | _ => none

/-- A string that is one of `names`, as the value it names. -/
def Value.named {α : Type} (names : List (String × α)) (v : Value) : Option α :=
  v.str?.bind fun s => GoMap.lookup s names

/-- A table's entries; nothing for any other value. -/
def Value.entries : Value → List (String × Value)
  | .map kvs => kvs
  | _ => []

/-- A table whose entries pass `p`. -/
def Value.isTableWith (p : List (String × Value) → Bool) : Value → Bool
  | .map kvs => p kvs
  | _ => false

@[simp] theorem Value.isTableWith_map (p : List (String × Value) → Bool) (kvs : List (String × Value)) :
    (Value.map kvs).isTableWith p = p kvs := rfl

def versionNames : List (String × ProtocolVersion) :=
  [("l2tpv2", ProtocolVersion2), ("l2tpv3", ProtocolVersion3)]

def encapNames : List (String × EncapType) := [("udp", EncapTypeUDP), ("ip", EncapTypeIP)]

def pseudowireNames : List (String × PseudowireType) :=
  [("ppp", PseudowireTypePPP), ("eth", PseudowireTypeEth)]

def l2SpecNames : List (String × L2SpecType) :=
  [("none", L2SpecTypeNone), ("default", L2SpecTypeDefault)]

/-! ## The grammar -/

/-- The keys of a session table, and the values each accepts. -/
def sessionKeyOK : String → Value → Bool
  | "sid", v | "psid", v => v.u32?.isSome
  | "pseudowire", v => (v.named pseudowireNames).isSome
  | "seqnum", v => v.bool?.isSome
  | "reorder_timeout", v => v.ms?.isSome
  | "cookie", v | "peer_cookie", v => v.bytes?.isSome
  | "interface_name", v => v.str?.isSome
  | "l2spec_type", v => (v.named l2SpecNames).isSome
  | _, _ => false

def validSession (sm : List (String × Value)) : Bool := sm.all fun e => sessionKeyOK e.1 e.2

/-- A `session` value: a table of session tables. -/
def validSessions (v : Value) : Bool :=
  v.isTableWith fun ss => ss.all fun e => e.2.isTableWith validSession

/-- The keys of a tunnel table, and the values each accepts. -/
def tunnelKeyOK : String → Value → Bool
  | "local", v | "peer", v => v.str?.isSome
  | "encap", v => (v.named encapNames).isSome
  | "version", v => (v.named versionNames).isSome
  | "tid", v | "ptid", v => v.u32?.isSome
  | "session", v => validSessions v
  | _, _ => false

def validTunnel (tm : List (String × Value)) : Bool := tm.all fun e => tunnelKeyOK e.1 e.2

/-- A `tunnel` key whose value is a table of tunnel tables. -/
def validTree (cm : List (String × Value)) : Bool :=
  match GoMap.lookup "tunnel" cm with
  | some t => t.isTableWith fun ts => ts.all fun e => e.2.isTableWith validTunnel
  | none => false

/-! ## The configuration a tree denotes -/

/-- The value of key `k` of a table as `read` decodes it; `zero` if absent. -/
def field {α : Type} (m : List (String × Value)) (k : String) (read : Value → Option α) (zero : α) : α :=
  ((GoMap.lookup k m).bind read).getD zero

def specSession (sm : List (String × Value)) : SessionConfig where
  SessionID := field sm "sid" Value.u32? 0
  PeerSessionID := field sm "psid" Value.u32? 0
  Pseudowire := field sm "pseudowire" (Value.named pseudowireNames) ⟨0⟩
  SeqNum := field sm "seqnum" Value.bool? false
  ReorderTimeout := field sm "reorder_timeout" Value.ms? 0
  Cookie := field sm "cookie" Value.bytes? []
  PeerCookie := field sm "peer_cookie" Value.bytes? []
  InterfaceName := field sm "interface_name" Value.str? ""
  L2SpecType := field sm "l2spec_type" (Value.named l2SpecNames) ⟨0⟩

/-- The sessions of a `session` table, by name. -/
def specSessions (ss : List (String × Value)) : GoMap String SessionConfig :=
  GoMap.ofList (ss.map fun e => (e.1, specSession e.2.entries))

def specTunnel (tm : List (String × Value)) : TunnelConfig where
  Local := field tm "local" Value.str? ""
  Peer := field tm "peer" Value.str? ""
  Encap := field tm "encap" (Value.named encapNames) ⟨0⟩
  Version := field tm "version" (Value.named versionNames) ⟨0⟩
  TunnelID := field tm "tid" Value.u32? 0
  PeerTunnelID := field tm "ptid" Value.u32? 0
  Sessions := field tm "session" (fun v => some (specSessions v.entries)) .empty

/-- The tunnels of the `tunnel` table, by name. -/
def specTunnels (ts : List (String × Value)) : GoMap String TunnelConfig :=
  GoMap.ofList (ts.map fun e => (e.1, specTunnel e.2.entries))

def specConfig (cm : List (String × Value)) : LoadedConfig :=
  ⟨cm, specTunnels (field cm "tunnel" (fun v => some v.entries) [])⟩

/-! ## The decoders -/

theorem toOption_eq_some {ε α : Type} {x : Except ε α} {a : α} : x.toOption = some a ↔ x = .ok a := by
  cases x <;> simp [Except.toOption]

theorem processed_toOption {α σ : Type} (k : String) (r : Except String α) (set : α → σ) :
    (processed k r set).toOption = r.toOption.map set := by
  cases r <;> rfl

/-- What a step adds when its entry is valid is the same whatever the value decoded to. -/
theorem map_eq_ite {α β : Type} {o : Option α} {f : α → β} {b : β} (h : ∀ x, o = some x → f x = b) :
    o.map f = if o.isSome then some b else none := by
  cases o <;> simp [h]

theorem toUint32_toOption (v : Value) : (toUint32 v).toOption = v.u32? := by
  cases v <;> try rfl
  all_goals
    simp only [toUint32, Value.u32?, Value.upTo, Value.int?, Option.bind]
    split_ifs <;> first | rfl | omega

theorem int64Wrap_ms {n : Nat} (h : n ≤ 0xffffffff) :
    int64Wrap ((UInt32.ofNat n).toNat * Millisecond) = n * 1000000 := by
  have hn : (UInt32.ofNat n).toNat = n := UInt32.toNat_ofNat_of_lt (by unfold UInt32.size; omega)
  rw [hn, int64Wrap, Millisecond, Int.emod_eq_of_lt] <;> omega

theorem Value.upTo_le {v : Value} {hi n : Nat} (h : v.upTo hi = some n) : n ≤ hi := by
  simp only [Value.upTo, Option.bind_eq_some] at h
  obtain ⟨i, -, h⟩ := h
  split_ifs at h with hi'
  cases h; omega

theorem toDurationMs_toOption (v : Value) : (toDurationMs v).toOption = v.ms? := by
  have h := toUint32_toOption v
  simp only [Value.u32?] at h
  cases hu : v.upTo 0xffffffff with
  | none => cases hd : toUint32 v <;> simp_all [toDurationMs, Value.ms?, Except.toOption]
  | some n =>
    have hn := Value.upTo_le hu
    cases hd : toUint32 v <;> simp_all [toDurationMs, Value.ms?, Except.toOption, int64Wrap_ms hn]

theorem toString_toOption (v : Value) : (toString v).toOption = v.str? := by
  cases v <;> rfl

theorem toBool_toOption (v : Value) : (toBool v).toOption = v.bool? := by
  cases v <;> rfl

theorem toNamed_toOption {α : Type} (a b : String) (x y : α) (msg : String) (v : Value) :
    (toNamed a b x y msg v).toOption = v.named [(a, x), (b, y)] := by
  cases v with
  | string s =>
    simp only [toNamed, toString, Value.named, Value.str?, Option.bind, GoMap.lookup, @eq_comm _ a,
      @eq_comm _ b]
    split_ifs <;> rfl
  | _ => rfl

theorem toBytesLoop_cons (v : Value) (vs : List Value) (out : List UInt8) :
    (toBytesLoop (v :: vs) out).toOption = v.byte?.bind fun x => (toBytesLoop vs (out ++ [x])).toOption := by
  cases v <;> try rfl
  all_goals
    simp only [toBytesLoop, Value.byte?, Value.upTo, Value.int?, Option.some_bind]
    split_ifs <;> first | rfl | omega

theorem toBytesLoop_toOption (vs : List Value) (out : List UInt8) :
    (toBytesLoop vs out).toOption =
      if vs.all (fun v => v.byte?.isSome) then some (out ++ vs.filterMap Value.byte?) else none := by
  induction vs generalizing out with
  | nil => simp [toBytesLoop, Except.toOption]
  | cons v vs ih =>
    rw [toBytesLoop_cons]
    cases hv : v.byte? <;> simp [hv, ih]

theorem toBytes_toOption (v : Value) : (toBytes v).toOption = v.bytes? := by
  cases v with
  | array vs => simp only [toBytes, Value.bytes?, toBytesLoop_toOption, List.nil_append]
  | _ => rfl

/-! ## Loops -/

theorem rangeM_append {σ : Type} (body : String → Value → σ → Except String σ)
    (l₁ l₂ : List (String × Value)) (s : σ) :
    rangeM body (l₁ ++ l₂) s = rangeM body l₁ s >>= rangeM body l₂ := by
  induction l₁ generalizing s with
  | nil => rfl
  | cons e l₁ ih =>
    obtain ⟨k, v⟩ := e
    simp only [List.cons_append, rangeM]
    cases body k v s with
    | error => rfl
    | ok s' => exact ih s'

theorem rangeM_singleton {σ : Type} (body : String → Value → σ → Except String σ) (k : String)
    (v : Value) (s : σ) : rangeM body [(k, v)] s = body k v s := by
  simp only [rangeM]; cases body k v s <;> rfl

section Range

variable {σ : Type} (body : String → Value → σ → Except String σ) (ok : String → Value → Bool)
  (P : String × Value → Prop) (spec : List (String × Value) → σ)

/-- A loop whose body, run on what the entries so far denote, adds the next
entry when it is valid and fails otherwise denotes the whole table, or fails
when some entry is invalid. -/
theorem rangeM_toOption
    (hstep : ∀ l k v, P (k, v) → k ∉ l.map Prod.fst →
      (body k v (spec l)).toOption = if ok k v then some (spec (l ++ [(k, v)])) else none)
    (l : List (String × Value)) (hnd : (l.map Prod.fst).Nodup) (hP : ∀ e ∈ l, P e) :
    (rangeM body l (spec [])).toOption = if l.all (fun e => ok e.1 e.2) then some (spec l) else none := by
  induction l using List.reverseRecOn with
  | nil => rfl
  | append_singleton l e ih =>
    obtain ⟨k, v⟩ := e
    rw [List.map_append, List.nodup_append] at hnd
    have hk : k ∉ l.map Prod.fst := fun h => hnd.2.2 h (List.mem_singleton_self k)
    have ih := ih hnd.1 fun e he => hP e (List.mem_append_left _ he)
    rw [rangeM_append, List.all_append]
    by_cases hl : l.all (fun e => ok e.1 e.2)
    · rw [if_pos hl, toOption_eq_some] at ih
      rw [ih, hl, Bool.true_and, List.all_cons, List.all_nil, Bool.and_true]
      show (rangeM body [(k, v)] (spec l)).toOption = _
      rw [rangeM_singleton]
      exact hstep l k v (hP _ (by simp)) hk
    · rw [if_neg hl] at ih
      cases h : rangeM body l (spec []) with
      | error => simp [hl, Except.toOption]; rfl
      | ok => simp [h, Except.toOption] at ih

/-- The same loop over the runtime's order of a table with distinct keys,
when what the entries denote does not depend on their order. -/
theorem rangeM_iter
    (hstep : ∀ l k v, P (k, v) → k ∉ l.map Prod.fst →
      (body k v (spec l)).toOption = if ok k v then some (spec (l ++ [(k, v)])) else none)
    (ord : Iter) (hord : ord.OK) (path : List String) (m : List (String × Value))
    (hnd : (m.map Prod.fst).Nodup) (hP : ∀ e ∈ m, P e) (hspec : spec (ord path m) = spec m) :
    (rangeM body (ord path m) (spec [])).toOption = if m.all (fun e => ok e.1 e.2) then some (spec m) else none := by
  have hp := hord path m
  have hall : (ord path m).all (fun e => ok e.1 e.2) = m.all (fun e => ok e.1 e.2) :=
    Bool.eq_iff_iff.2 (by simp [List.all_eq_true, hp.mem_iff])
  rw [rangeM_toOption body ok P spec hstep _ ((hp.map Prod.fst).nodup_iff.2 hnd)
    fun e he => hP e (hp.mem_iff.1 he), hall, hspec]

end Range

/-! ## Sessions -/

theorem field_append {k : String} {l : List (String × Value)} (hk : k ∉ l.map Prod.fst) (v : Value)
    {α : Type} (k' : String) (read : Value → Option α) (zero : α) :
    field (l ++ [(k, v)]) k' read zero = if k = k' then (read v).getD zero else field l k' read zero := by
  unfold field; rw [GoMap.lookup_append_singleton hk]; split_ifs <;> rfl

theorem sessionKey_step (l : List (String × Value)) (k : String) (v : Value)
    (hk : k ∉ l.map Prod.fst) : (sessionKey k v (specSession l)).toOption =
      if sessionKeyOK k v then some (specSession (l ++ [(k, v)])) else none := by
  unfold sessionKey sessionKeyOK
  split <;> simp only [processed_toOption, toCCID, toUint32_toOption, toPseudowireType, toNamed_toOption,
    toBool_toOption, toDurationMs_toOption, toBytes_toOption, toString_toOption, toL2SpecType] <;>
    first
    | exact map_eq_ite fun x hx => by simp [specSession, field_append hk, hx, pseudowireNames, l2SpecNames]
    | rfl

theorem newSessionConfig_toOption (ord : Iter) (hord : ord.OK) (path : List String)
    (sm : List (String × Value)) (hnd : (sm.map Prod.fst).Nodup) :
    (newSessionConfig ord path sm).toOption = if validSession sm then some (specSession sm) else none := by
  have hp := hord path sm
  exact rangeM_iter sessionKey sessionKeyOK (fun _ => True) specSession
    (fun l k v _ hk => sessionKey_step l k v hk) ord hord path sm hnd (fun _ _ => trivial)
    (by simp [specSession, field, GoMap.lookup_perm hp ((hp.map Prod.fst).nodup_iff.2 hnd)])

/-! ## Tunnels -/

/-- The distinct keys of a table come through any listing that renames its values. -/
theorem nodup_keys_map {l : List (String × Value)} {β : Type} (f : String × Value → β)
    (hnd : (l.map Prod.fst).Nodup) : ((l.map fun e => (e.1, f e)).map Prod.fst).Nodup := by
  simpa [Function.comp_def] using hnd

theorem specSessions_append (l : List (String × Value)) (name : String) (got : Value) :
    specSessions (l ++ [(name, got)]) = (specSessions l).insert name (specSession got.entries) := by
  simp [specSessions, GoMap.ofList_append_singleton]

theorem sessionEntry_step (ord : Iter) (hord : ord.OK) (path : List String) (tc : TunnelConfig)
    (l : List (String × Value)) (name : String) (got : Value) (hgot : GoMaps got) :
    (sessionEntry ord path name got { tc with Sessions := specSessions l }).toOption =
      if got.isTableWith validSession then some { tc with Sessions := specSessions (l ++ [(name, got)]) }
      else none := by
  cases hgot with
  | map smap hnd _ =>
    have h := newSessionConfig_toOption ord hord (path ++ [name]) smap hnd
    simp only [sessionEntry, Value.isTableWith, specSessions_append, Value.entries]
    cases hs : newSessionConfig ord (path ++ [name]) smap <;> simp only [hs, Except.toOption] at h ⊢ <;>
      split_ifs at h ⊢ <;> first | rfl | (cases h; rfl)
  | _ => rfl

theorem loadSessions_toOption (ord : Iter) (hord : ord.OK) (path : List String) (v : Value)
    (hv : GoMaps v) (tc : TunnelConfig) (htc : tc.Sessions = .empty) :
    (loadSessions ord path v tc).toOption =
      if validSessions v then some { tc with Sessions := specSessions v.entries } else none := by
  cases hv with
  | map ss hnd hss =>
    obtain ⟨lo, pe, en, ve, ti, pt, se⟩ := tc
    cases htc
    have hp := hord path ss
    have hs : specSessions (ord path ss) = specSessions ss :=
      GoMap.ofList_perm (hp.map _) (nodup_keys_map _ ((hp.map Prod.fst).nodup_iff.2 hnd))
    exact rangeM_iter (sessionEntry ord path) (fun _ got => got.isTableWith validSession)
      (fun e => GoMaps e.2) (fun l => ⟨lo, pe, en, ve, ti, pt, specSessions l⟩)
      (fun l name got hgot _ => sessionEntry_step ord hord path ⟨lo, pe, en, ve, ti, pt, .empty⟩ l name got hgot)
      ord hord path ss hnd hss
      (by simp only [hs])
  | _ => rfl

theorem tunnelKey_step (ord : Iter) (hord : ord.OK) (path : List String) (l : List (String × Value))
    (k : String) (v : Value) (hv : GoMaps v) (hk : k ∉ l.map Prod.fst) :
    (tunnelKey ord path k v (specTunnel l)).toOption =
      if tunnelKeyOK k v then some (specTunnel (l ++ [(k, v)])) else none := by
  have hsess : "session" ∉ l.map Prod.fst →
      (loadSessions ord (path ++ ["session"]) v (specTunnel l)).toOption =
        if validSessions v then some (specTunnel (l ++ [("session", v)])) else none := fun hs => by
    rw [loadSessions_toOption ord hord _ v hv _ (by simp [specTunnel, field, GoMap.lookup_eq_none hs])]
    simp [specTunnel, field_append hs]
  unfold tunnelKey tunnelKeyOK
  split <;> simp only [processed_toOption, toCCID, toUint32_toOption, toEncapType, toNamed_toOption,
    toVersion, toString_toOption] <;>
    first
    | exact map_eq_ite fun x hx => by simp [specTunnel, field_append hk, hx, encapNames, versionNames]
    | rfl
    | simp [hsess hk]

theorem newTunnelConfig_toOption (ord : Iter) (hord : ord.OK) (path : List String)
    (tm : List (String × Value)) (htm : GoMaps (.map tm)) :
    (newTunnelConfig ord path tm).toOption = if validTunnel tm then some (specTunnel tm) else none := by
  cases htm with
  | map _ hnd htm =>
    have hp := hord path tm
    exact rangeM_iter (tunnelKey ord path) tunnelKeyOK (fun e => GoMaps e.2) specTunnel
      (fun l k v hv hk => tunnelKey_step ord hord path l k v hv hk) ord hord path tm hnd htm
      (by simp [specTunnel, field, GoMap.lookup_perm hp ((hp.map Prod.fst).nodup_iff.2 hnd)])

/-! ## The whole tree -/

theorem specTunnels_append (l : List (String × Value)) (name : String) (got : Value) :
    specTunnels (l ++ [(name, got)]) = (specTunnels l).insert name (specTunnel got.entries) := by
  simp [specTunnels, GoMap.ofList_append_singleton]

theorem tunnelEntry_step (ord : Iter) (hord : ord.OK) (l : List (String × Value)) (name : String)
    (got : Value) (hgot : GoMaps got) :
    (tunnelEntry ord name got (specTunnels l)).toOption =
      if got.isTableWith validTunnel then some (specTunnels (l ++ [(name, got)])) else none := by
  cases hgot with
  | map tmap hnd htm =>
    have h := newTunnelConfig_toOption ord hord ["tunnel", name] tmap (.map tmap hnd htm)
    simp only [tunnelEntry, Value.isTableWith, specTunnels_append, Value.entries]
    cases hs : newTunnelConfig ord ["tunnel", name] tmap <;> simp only [hs, Except.toOption] at h ⊢ <;>
      split_ifs at h ⊢ <;> first | rfl | (cases h; rfl)
  | _ => rfl

theorem loadTunnels_toOption (ord : Iter) (hord : ord.OK) (cm : List (String × Value))
    (hcm : GoMaps (.map cm)) : (loadTunnels ord cm).toOption =
      if validTree cm then some (specTunnels (field cm "tunnel" (fun v => some v.entries) [])) else none := by
  cases hcm with
  | map _ hnd hcm =>
    unfold loadTunnels validTree field
    cases ht : GoMap.lookup "tunnel" cm with
    | none => rfl
    | some t =>
      cases hcm _ ((GoMap.lookup_iff_mem hnd).1 ht) with
      | map ts hnd htm =>
        have hp := hord ["tunnel"] ts
        simp only [Value.isTableWith_map, Option.some_bind, Option.getD_some, Value.entries]
        exact rangeM_iter (tunnelEntry ord) (fun _ got => got.isTableWith validTunnel) (fun e => GoMaps e.2)
          specTunnels (fun l name got hgot _ => tunnelEntry_step ord hord l name got hgot) ord hord
          ["tunnel"] ts hnd htm (GoMap.ofList_perm (hp.map _) (nodup_keys_map _ ((hp.map Prod.fst).nodup_iff.2 hnd)))
      | _ => rfl

/-- For every iteration order, `newConfig` accepts exactly the trees of the
grammar, and returns the configuration the tree denotes. -/
theorem newConfig_toOption (ord : Iter) (hord : ord.OK) (cm : List (String × Value))
    (hcm : GoMaps (.map cm)) :
    (newConfig ord cm).toOption = if validTree cm then some (specConfig cm) else none := by
  have h := loadTunnels_toOption ord hord cm hcm
  unfold newConfig specConfig
  cases hl : loadTunnels ord cm <;> simp only [hl, Except.toOption] at h ⊢ <;>
    split_ifs at h ⊢ <;> first | rfl | (cases h; rfl)

/-- What the loader promises for a tree under two iteration orders. -/
def NewConfigSpec (cm : List (String × Value)) (ord ord' : Iter) : Prop :=
  ((∃ cfg, newConfig ord cm = .ok cfg) ↔ validTree cm) ∧
  (∀ cfg, newConfig ord cm = .ok cfg → cfg = specConfig cm) ∧
  (newConfig ord cm).toOption = (newConfig ord' cm).toOption

theorem newConfig_decodes (cm : List (String × Value)) (hcm : GoMaps (.map cm)) (ord ord' : Iter)
    (hord : ord.OK) (hord' : ord'.OK) : NewConfigSpec cm ord ord' := by
  have h := newConfig_toOption ord hord cm hcm
  refine ⟨⟨fun ⟨cfg, hc⟩ => ?_, fun hv => ⟨specConfig cm, ?_⟩⟩, fun cfg hc => ?_,
    by rw [h, newConfig_toOption ord' hord' cm hcm]⟩
  · rw [toOption_eq_some.2 hc] at h
    by_contra hv
    simp [hv] at h
  · rw [← toOption_eq_some, h, if_pos hv]
  · rw [toOption_eq_some.2 hc] at h
    split_ifs at h
    exact Option.some.inj h

/-- A tree with one tunnel holding one session. -/
def sampleTree : List (String × Value) :=
  [("tunnel", .map [("t1", .map [("version", .string "l2tpv3"),
    ("session", .map [("s1", .map [("sid", .uint64 7)])])])])]

theorem sampleTree_goMaps : GoMaps (.map sampleTree) :=
  .map _ (by decide) fun p hp => by
    simp only [sampleTree, List.mem_singleton] at hp; subst hp
    refine .map _ (by decide) fun p hp => ?_
    simp only [List.mem_singleton] at hp; subst hp
    refine .map _ (by decide) fun p hp => ?_
    simp only [List.mem_cons, List.mem_singleton, List.not_mem_nil, or_false] at hp
    rcases hp with rfl | rfl
    · exact .string _
    refine .map _ (by decide) fun p hp => ?_
    simp only [List.mem_singleton] at hp; subst hp
    exact .map _ (by decide) fun p hp => by
      simp only [List.mem_singleton] at hp; subst hp; exact .uint64 _

theorem newConfig_decodes_sampleTree :
    GoMaps (.map sampleTree) ∧ Iter.listed.OK ∧ Iter.reversed.OK ∧
      NewConfigSpec sampleTree Iter.listed Iter.reversed :=
  ⟨sampleTree_goMaps, Iter.listed_ok, Iter.reversed_ok,
    newConfig_decodes sampleTree sampleTree_goMaps Iter.listed Iter.reversed Iter.listed_ok Iter.reversed_ok⟩

end GoL2tp.Config
