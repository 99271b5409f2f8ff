import PrintProxy.Proofs.Uri.Host
import PrintProxy.Uri.Derived

/-!
# URIs of jobs

The URI of a job is put together as a text and parsed.  Nothing in its parts
ends a part too early, so the parser finds them as they were put in, and what it
finds is rendered as the same text again.
-/

namespace PrintProxy

namespace Authority

variable {authority : Authority} {character : Char}

theorem mem_of_mem_hostPort (member : character ∈ authority.hostPort) :
    character ∈ authority.text.toList := by
  unfold hostPort afterLast at member
  exact List.mem_reverse.mp ((List.takeWhile_sublist _).subset (List.mem_reverse.mp member))

theorem mem_of_mem_host (member : character ∈ authority.host.toList) :
    character ∈ authority.text.toList ∨ character = ']' := by
  unfold host at member
  split at member
  · next rest bracketed =>
      rw [String.toList_ofList] at member
      rcases List.mem_append.mp member with opening | closing
      · left
        apply mem_of_mem_hostPort
        rw [bracketed]
        exact (List.Sublist.cons_cons '[' (List.takeWhile_sublist _)).subset opening
      · exact .inr (List.mem_singleton.mp closing)
  · rw [String.toList_ofList] at member
    exact .inl (mem_of_mem_hostPort ((List.takeWhile_sublist _).subset member))

end Authority

namespace Uri

/-- The path of a job's URI. -/
def jobPath (jobId : Int32) : String := "/jobs/" ++ Numeral.signed jobId.toInt

/-- The server of the jobs at a base. -/
def jobServer (base : Uri) : String :=
  base.host?.getD "localhost" ++
    match base.port? with
    | some port => ":" ++ Numeral.decimal port.toNat
    | none => ""

variable {base uri : Uri} {jobId : Int32}

theorem jobUri_eq (base : Uri) (jobId : Int32) :
    base.jobUri jobId = parse ("ipp://" ++ base.jobServer ++ jobPath jobId) := by
  unfold jobUri jobServer jobPath
  cases base.port? <;> simp [toString, String.append_assoc]

theorem hasNoTerminator_jobServer (names : base.NamesItsServer) :
    Authority.HasNoTerminator base.jobServer := by
  have inHost : Authority.HasNoTerminator (base.host?.getD "localhost") := by
    intro character member
    unfold host? at member
    cases named : base.authority with
    | none =>
        rw [named] at member
        exact Authority.HasNoTerminator.of_all rfl character member
    | some authority =>
        rw [named] at member
        rcases Authority.mem_of_mem_host member with inText | rfl
        · exact (names authority named).noTerminator character inText
        · decide
  exact inHost.serverText base.port?

/-- The parts of a job's URI. -/
theorem eq_of_jobUri (names : base.NamesItsServer) (made : base.jobUri jobId = .ok uri) :
    uri = ⟨some "ipp", some ⟨base.jobServer⟩, jobPath jobId, none⟩ := by
  have rooted : jobPath jobId = "/" ++ ("jobs/" ++ Numeral.signed jobId.toInt) := by
    rw [← String.append_assoc]
    rfl
  rw [jobUri_eq, rooted] at made
  obtain ⟨path, query, found, rfl⟩ := parts_of_parse_ipp (hasNoTerminator_jobServer names) made
  rw [← rooted] at found
  have whole : ∀ character ∈ (jobPath jobId).toList,
      (character != '?' && character != '#') = true := by
    have front : ∀ character ∈ "/jobs/".toList, (character != '?' && character != '#') = true :=
      List.all_eq_true.mp rfl
    intro character member
    rw [jobPath, String.toList_append] at member
    rcases List.mem_append.mp member with inFront | inNumber
    · exact front character inFront
    · rcases Numeral.isDigit_or_of_mem_signed inNumber with digit | rfl
      · simp [ne_of_isDigit digit]
      · decide
  obtain ⟨written, asked⟩ := parts_of_splitPath found
  rw [List.takeWhile_eq_self_iff.mpr whole, String.ofList_toList] at written
  rw [List.dropWhile_eq_nil_iff.mpr whole] at asked
  have noQuery : query = none := by simpa using asked
  rw [written, noQuery]

theorem jobPath_ne_empty : jobPath jobId ≠ "" := by
  intro empty
  have characters := congrArg String.toList empty
  rw [jobPath, String.toList_append] at characters
  cases characters

theorem path_of_jobUri (names : base.NamesItsServer) (made : base.jobUri jobId = .ok uri) :
    uri.path = jobPath jobId := by
  rw [eq_of_jobUri names made, Uri.path]
  simp [jobPath_ne_empty]

/-- What is written of a job's URI is read as the URI. -/
theorem parse_render_of_jobUri (names : base.NamesItsServer)
    (made : base.jobUri jobId = .ok uri) : parse uri.render = .ok uri := by
  have path := path_of_jobUri names made
  have spelled : uri.render = "ipp://" ++ base.jobServer ++ jobPath jobId := by
    rw [render, path, eq_of_jobUri names made]
    simp [renderServer, renderQuery]
  rw [spelled, ← jobUri_eq, made]

/-- The host of the jobs at a base. -/
def jobHost (base : Uri) : String := base.host?.getD "localhost"

theorem isHost_jobHost (base : Uri) : Authority.IsHost base.jobHost.toList := by
  rw [jobHost, host?]
  cases base.authority with
  | none => exact Authority.isHost_host ⟨"localhost"⟩
  | some authority => exact authority.isHost_host

theorem locates_of_jobUri (names : base.NamesItsServer) (made : base.jobUri jobId = .ok uri) :
    uri.Locates base.jobHost base.port? (jobPath jobId) := by
  cases eq_of_jobUri names made
  exact locates_serverText base.isHost_jobHost base.port? jobPath_ne_empty

theorem jobPath_inj {other : Int32} : jobPath jobId = jobPath other ↔ jobId = other := by
  rw [jobPath, jobPath, String.append_right_inj, Numeral.signed_inj, Int32.toInt_inj]

/-- The URI of a job says where the job is and nothing else.  It can stand for its base, and no
other job has it. -/
theorem jobUri_locates_job (names : base.NamesItsServer) (made : base.jobUri jobId = .ok uri) :
    uri.Locates (base.host?.getD "localhost") base.port?
        ("/jobs/" ++ Numeral.signed jobId.toInt) ∧
      (∀ other, uri.jobUri other = base.jobUri other) ∧
      ∀ other otherUri, base.jobUri other = .ok otherUri → other ≠ jobId →
        otherUri.path ≠ uri.path := by
  have locates := locates_of_jobUri names made
  refine ⟨locates, ?absorbed, ?distinct⟩
  case absorbed =>
    have sameServer : uri.jobServer = base.jobServer := by
      rw [jobServer, locates.host, locates.port]
      rfl
    intro other
    rw [jobUri_eq, jobUri_eq, sameServer]
  case distinct =>
    intro other otherUri otherMade isOther samePath
    rw [path_of_jobUri names otherMade, path_of_jobUri names made] at samePath
    exact isOther (jobPath_inj.mp samePath)

/-- A password is left out, a bracketed address and a port are kept. -/
theorem jobUri_locates_job_bracketed :
    ∃ uri, jobUri ⟨some "https", some ⟨"user:80@[::1]:+0631"⟩, "/printers/p", some "q"⟩ (-7) =
        .ok uri ∧
      uri.Locates "[::1]" (some 631) "/jobs/-7" := by
  have parsed : parse "https://user:80@[::1]:+0631/printers/p?q" =
      .ok ⟨some "https", some ⟨"user:80@[::1]:+0631"⟩, "/printers/p", some "q"⟩ := by decide
  have made : jobUri ⟨some "https", some ⟨"user:80@[::1]:+0631"⟩, "/printers/p", some "q"⟩ (-7) =
      .ok ⟨some "ipp", some ⟨"[::1]:631"⟩, "/jobs/-7", none⟩ := by decide
  exact ⟨_, made, (jobUri_locates_job (namesItsServer_of_parse parsed) made).1⟩

end Uri

end PrintProxy
