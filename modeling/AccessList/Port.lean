/-! Port names. The two transport protocols name ports in tables of their own; a name for both has to
stand in both. -/
namespace AccessList

/-- Which table a port name is looked up in. Where that is not known, it is the one of UDP. -/
inductive PortFamily where
  | unknown
  | tcp
  | udp
  | tcpUdp
  deriving DecidableEq, Repr

namespace Port

def tcpNames : List (String × Nat) := [
  ("aol", 5190), ("bgp", 179), ("chargen", 19), ("cifs", 3020), ("citrix-ica", 1494),
  ("cmd", 514), ("ctiqbe", 2748), ("daytime", 13), ("discard", 9), ("domain", 53), ("echo", 7),
  ("exec", 512), ("finger", 79), ("ftp", 21), ("ftp-data", 20), ("gopher", 70), ("h323", 1720),
  ("hostname", 101), ("http", 80), ("https", 443), ("ident", 113), ("imap4", 143), ("irc", 194),
  ("kerberos", 750), ("klogin", 543), ("kshell", 544), ("ldap", 389), ("ldaps", 636),
  ("login", 513), ("lotusnotes", 1352), ("lpd", 515), ("netbios-ssn", 139), ("nfs", 2049),
  ("nntp", 119), ("pcanywhere-data", 5631), ("pim-auto-rp", 496), ("pop2", 109), ("pop3", 110),
  ("pptp", 1723), ("rsh", 514), ("rtsp", 554), ("sip", 5060), ("smtp", 25), ("sqlnet", 1521),
  ("ssh", 22), ("sunrpc", 111), ("tacacs", 49), ("talk", 517), ("telnet", 23), ("uucp", 540),
  ("whois", 43), ("www", 80)]

def udpNames : List (String × Nat) := [
  ("biff", 512), ("bootpc", 68), ("bootps", 67), ("cifs", 3020), ("discard", 9), ("dnsix", 195),
  ("domain", 53), ("echo", 7), ("http", 80), ("isakmp", 500), ("kerberos", 750),
  ("mobile-ip", 434), ("nameserver", 42), ("netbios-dgm", 138), ("netbios-ns", 137),
  ("nfs", 2049), ("ntp", 123), ("pcanywhere-status", 5632), ("pim-auto-rp", 496),
  ("radius", 1645), ("radius-acct", 1646), ("rip", 520), ("secureid-udp", 5510), ("sip", 5060),
  ("snmp", 161), ("snmptrap", 162), ("sunrpc", 111), ("syslog", 514), ("tacacs", 49),
  ("talk", 517), ("tftp", 69), ("time", 37), ("vxlan", 4789), ("who", 513), ("www", 80),
  ("xdmcp", 177)]

/-- A name for both transports has the number that UDP gives it. -/
def number? (name : String) : PortFamily → Option Nat
  | .tcp => tcpNames.lookup name
  | .udp | .unknown => udpNames.lookup name
  | .tcpUdp => if (tcpNames.lookup name).isSome then udpNames.lookup name else none

def comparisons : List String := ["lt", "gt", "eq", "neq"]

def isOperator (token : String) : Bool := comparisons.contains token || token = "range"

end Port
end AccessList
