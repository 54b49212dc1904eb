import CovertConnect.Data.Exec
import CovertConnect.Data.Replace

namespace CovertConnect.Client

open CovertConnect.Data

/-! # The PAC file

The text that tells browsers which hosts go to the proxy.  It is built from the
direct domains and the port, kept, and served as it was built last. -/

/-- `PAC_CONTENT` up to the place of the list. -/
def pacHead : String := "
function FindProxyForURL(url, host) \x7b
    if (/^[0-9]\x7b1,3\x7d\\.[0-9]\x7b1,3\x7d\\.[0-9]\x7b1,3\x7d\\.[0-9]\x7b1,3\x7d$/.test(host)) \x7b
      if (IsInNet(host, \"10.0.0.0\", \"255.0.0.0\")
        || IsInNet(host, \"127.0.0.0\", \"255.0.0.0\")
        || IsInNet(host, \"172.16.0.0\", \"255.240.0.0\")
        || IsInNet(host, \"192.168.0.0\", \"255.255.0.0\")
      ) \x7b
        return \"DIRECT\"
      \x7d
    \x7d
  
    if (isPlainHostName(host) || shExpMatch(host, \"*.local\")) \x7b
      return \"DIRECT\"
    \x7d
  
    list = ["

def pacMiddle : String := "]
  
    parts = host.split('.')
    for (let i = 0; i < list.length; i++) \x7b
      part_count = i + 1;
      if (part_count > parts.length) \x7b
        break
      \x7d
  
      phost = parts.slice(parts.length - part_count).join(\".\")
      if (list[i].indexOf(phost) != -1) \x7b
        return 'DIRECT;'
      \x7d
    \x7d

    return "

def pacTail : String := "
\x7d
"

def arrayMark : List Char := ['_', '_', 'A', 'R', 'R', 'A', 'Y', '_', '_']

def proxyMark : List Char := ['_', '_', 'P', 'R', 'O', 'X', 'Y', '_', '_']

def pacContent : List Char :=
  pacHead.toList ++ (arrayMark ++ (pacMiddle.toList ++ (proxyMark ++ pacTail.toList)))

/-- `get_proxy_address().to_string()`. -/
def proxyAddressText (port : UInt16) : String :=
  "127.0.0.1:" ++ toString port.toNat

/-- One turn of the loop that sorts the hosts by their number of labels. -/
def addByDots (byDots : List (List String)) (host : String) : List (List String) :=
  let dotsCnt := host.toList.count '.' + 1
  (byDots ++ List.replicate (dotsCnt - byDots.length) []).modify (dotsCnt - 1) (· ++ [host])

def hostsText (hosts : List String) : List Char :=
  '[' :: (hosts.flatMap fun host => '"' :: (host.toList ++ ['"', ','])) ++ [']', ',']

def arrayText (domains : List String) : List Char :=
  (domains.foldl addByDots []).flatMap hostsText

def proxyText (port : UInt16) : List Char :=
  "'PROXY ".toList ++ ((proxyAddressText port).toList ++ ['\''])

/-- What `update_content` builds. -/
def buildPac (domains : List String) (port : UInt16) : List Char :=
  replaceAll proxyMark (proxyText port) (replaceAll arrayMark (arrayText domains) pacContent)

structure PacFileService where
  pacContent : Option (List Char)
  domains : List String
  proxyPort : UInt16
deriving DecidableEq, Repr

namespace PacFileService

def new (proxyPort : UInt16) : PacFileService where
  pacContent := none
  domains := []
  proxyPort := proxyPort

def setNewPort (port : UInt16) (this : PacFileService) : PacFileService :=
  { this with proxyPort := port }

def updateContent (this : PacFileService) : PacFileService :=
  { this with pacContent := some (buildPac this.domains this.proxyPort) }

/-- `pac_hander`: the text, or `SERVICE_UNAVAILABLE`. -/
def pacHander (this : PacFileService) : Option (List Char) :=
  this.pacContent

end PacFileService

/-- A character that is in neither mark is counted in the text and in what is
put in for the marks. -/
theorem count_buildPac {char : Char} (notArray : char ∉ arrayMark) (notProxy : char ∉ proxyMark)
    (domains : List String) {port : UInt16} (notPort : char ∉ proxyText port) :
    (buildPac domains port).count char =
      pacContent.count char +
        matchesFrom arrayMark pacContent 0 * (arrayText domains).count char := by
  have arraySome : arrayMark ≠ [] := by simp [arrayMark]
  have proxySome : proxyMark ≠ [] := by simp [proxyMark]
  rw [buildPac, count_replaceAll proxySome notProxy, count_replaceAll arraySome notArray,
    List.count_eq_zero.mpr notPort, Nat.mul_zero, Nat.add_zero]

/-- A character of the list that is neither in the marks nor in the proxy's
address shows up in the text. -/
theorem buildPac_ne {char : Char} (notArray : char ∉ arrayMark) (notProxy : char ∉ proxyMark)
    {domains domains' : List String} {port port' : UInt16} (notPort : char ∉ proxyText port)
    (notPort' : char ∉ proxyText port')
    (differ : (arrayText domains).count char ≠ (arrayText domains').count char) :
    buildPac domains port ≠ buildPac domains' port' := by
  intro same
  have counts := congrArg (List.count char) same
  rw [count_buildPac notArray notProxy domains notPort,
    count_buildPac notArray notProxy domains' notPort', Nat.add_left_cancel_iff] at counts
  have found : 0 < matchesFrom arrayMark pacContent 0 :=
    matchesFrom_pos (by simp [arrayMark]) _ _
  exact differ (Nat.eq_of_mul_eq_mul_left found counts)

end CovertConnect.Client
