import NetworkServices.Sftp.Paths
import NetworkServices.Ssh.ArgumentsProperties

/-! Which user names and file names fit the buffers of the paths. Nothing checks their lengths,
and the block for the whole path is as long as the two buffers can make it. -/

set_option autoImplicit false

namespace NetworkServices.SftpGet

section Strings

variable {block : List UInt8} {text : CString} {n : Nat}

theorem cString_strncpy (short : text.length < n) (nulFree : 0 ∉ text) :
    cString (strncpy block text n) = text := by
  obtain ⟨zeros, padding⟩ : ∃ zeros, n - text.length = zeros + 1 := ⟨n - text.length - 1, by omega⟩
  unfold strncpy overlay
  rw [List.take_of_length_le (Nat.le_of_lt short), padding, List.replicate_succ, List.append_assoc,
    List.cons_append, cString_append_of_nulFree nulFree, cString_terminated, List.append_nil]

theorem cString_strncat (nulFree : 0 ∉ text) :
    cString (strncat block text n) = cString block ++ text.take n := by
  have start : 0 ∉ cString block ++ text.take n := by
    rw [List.mem_append, not_or]
    exact ⟨zero_not_mem_cString block, fun member => nulFree (List.mem_of_mem_take member)⟩
  unfold strncat overlay
  rw [List.append_assoc _ [0], List.singleton_append, cString_append_of_nulFree start,
    cString_terminated, List.append_nil]

theorem inside_strncatStore (text : CString) :
    (strncatStore block text n).Inside ↔
      (cString block).length + (text.take n).length < PATH_SIZE := by
  unfold strncatStore
  rw [inside_iff, ← Nat.add_assoc]
  exact Nat.lt_iff_add_one_le.symm

end Strings

/-- All stores are inside of the buffers, and the path is that of the file in the directory of the
user. -/
structure PathsFit (block : Buffer PATH_SIZE) (username : CString) (word : List UInt8) : Prop where
  dir : AllInside (dirStores username)
  path : AllInside (pathStores block username word)
  opened : totalPathToFile block username word =
    ascii "/home/" ++ username ++ ascii "/" ++ cString word

section Fit

variable {block : Buffer PATH_SIZE} {username : CString} {word : List UInt8}

theorem allInside_dirStores (username : CString) :
    AllInside (dirStores username) ↔ username.length ≤ 1017 := by
  have home : (ascii "/home/").length < BUF_SIZE := by decide
  have length : (ascii "/home/").length = 6 := rfl
  unfold dirStores
  rw [allInside_cons, inside_storeText, and_iff_right home, allInside_appendTexts home,
    List.flatten_singleton, length]
  unfold BUF_SIZE
  omega

theorem directoryPath_nulFree (nulFree : 0 ∉ username) : 0 ∉ directoryPath username := by
  have home : 0 ∉ ascii "/home/" := by decide
  unfold directoryPath
  rw [List.mem_append, not_or]
  exact ⟨home, nulFree⟩

theorem directoryPath_length (username : CString) :
    (directoryPath username).length = 6 + username.length :=
  List.length_append

theorem cString_withDirectory (nulFree : 0 ∉ username) (short : username.length ≤ 1017) :
    cString (withDirectory block username) = directoryPath username := by
  have length := directoryPath_length username
  refine cString_strncpy ?_ (directoryPath_nulFree nulFree)
  unfold BUF_SIZE
  omega

theorem cString_withSlash (nulFree : 0 ∉ username) (short : username.length ≤ 1017) :
    cString (withSlash block username) = directoryPath username ++ ascii "/" := by
  have slash : 0 ∉ ascii "/" := by decide
  unfold withSlash
  rw [cString_strncat slash, cString_withDirectory nulFree short]
  rfl

theorem cString_withFile (nulFree : 0 ∉ username) (short : username.length ≤ 1017)
    (wordShort : word.length ≤ 1023) :
    cString (withFile block username word) = directoryPath username ++ ascii "/" ++ cString word := by
  have whole : (cString word).length ≤ BUF_SIZE :=
    Nat.le_trans (cString_length_le word) (Nat.le_succ_of_le wordShort)
  unfold withFile
  rw [cString_strncat (zero_not_mem_cString word), cString_withSlash nulFree short,
    List.take_of_length_le whole]

/-- With the longest names the path ends at the last byte of its block. -/
theorem allInside_pathStores (nulFree : 0 ∉ username) (short : username.length ≤ 1017)
    (wordShort : word.length ≤ 1023) : AllInside (pathStores block username word) := by
  have directory := directoryPath_length username
  have slash : (ascii "/").length = 1 := rfl
  have file := cString_length_le word
  have cut := List.length_take_le BUF_SIZE (cString word)
  have cutFile := List.length_take_le' BUF_SIZE (cString word)
  unfold pathStores
  rw [allInside_cons, allInside_cons, allInside_cons, allInside_cons, allInside_cons,
    inside_storeText, inside_strncatStore, inside_strncatStore, cString_withDirectory nulFree short,
    cString_withSlash nulFree short, List.length_append]
  refine ⟨by decide, ?_, by decide, ?_, ?_, allInside_nil⟩
  · exact Nat.lt_succ_of_le wordShort
  · have one : ((ascii "/").take 1).length = 1 := rfl
    unfold PATH_SIZE
    omega
  · unfold PATH_SIZE
    omega

theorem pathsFit_iff_short (nulFree : 0 ∉ username) :
    PathsFit block username word ↔ username.length ≤ 1017 ∧ word.length ≤ 1023 := by
  constructor
  · intro fit
    refine ⟨(allInside_dirStores username).mp fit.dir, ?_⟩
    have stored := fit.path (storeText .filename BUF_SIZE word)
      (List.mem_cons_of_mem _ List.mem_cons_self)
    exact Nat.le_of_lt_succ ((inside_storeText word).mp stored)
  · intro short
    obtain ⟨short, wordShort⟩ := short
    exact ⟨(allInside_dirStores username).mpr short, allInside_pathStores nulFree short wordShort,
      cString_withFile nulFree short wordShort⟩

end Fit

section Username

open Ssh

/-- For every user name that the command line can bring and every file name that is typed. -/
theorem pathsFit_iff {environment : Environment} {argv : List CString} {allocated : Allocated}
    (nulFree : ∀ arg ∈ argv, 0 ∉ arg)
    (returned : (parse_connection_data environment argv (CD_ADDRESS ||| CD_USERNAME)).result =
      some allocated)
    (block : Buffer PATH_SIZE) (word : List UInt8) :
    PathsFit block allocated.cd.username.value.text word ↔
      allocated.cd.username.value.text.length ≤ 1017 ∧ word.length ≤ 1023 := by
  obtain ⟨text, member, username⟩ := username_of_required returned (by decide)
  refine pathsFit_iff_short ?_
  rw [username]
  intro zero
  exact nulFree text member ((List.takeWhile_sublist _).mem zero)

theorem pathsFit_iff_alice :
    PathsFit (.zeroed PATH_SIZE) (ascii "alice") (ascii "a.txt") ↔
      (ascii "alice").length ≤ 1017 ∧ (ascii "a.txt").length ≤ 1023 := by
  have returned : (parse_connection_data (.counting fun _ => .found 16777343)
      [ascii "sftp_get", ascii "alice@server"] (CD_ADDRESS ||| CD_USERNAME)).result =
        some ⟨1, .stored ⟨2, ascii "alice"⟩, .stored 16777343, 22⟩ := by decide
  exact pathsFit_iff (by decide) returned (.zeroed PATH_SIZE) (ascii "a.txt")

end Username

/-- A file name of 1024 characters has its terminator behind `filename`. -/
theorem long_name_outside :
    ¬ PathsFit (.zeroed PATH_SIZE) (ascii "alice") (List.replicate 1024 97) := by
  intro fit
  have stored := fit.path (storeText .filename BUF_SIZE (List.replicate 1024 97))
    (List.mem_cons_of_mem _ List.mem_cons_self)
  have short := (inside_storeText _).mp stored
  rw [List.length_replicate] at short
  exact Nat.lt_irrefl 1024 short

end NetworkServices.SftpGet
