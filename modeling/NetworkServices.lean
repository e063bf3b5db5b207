import NetworkServices.Netfilter.CallbackProperties
import NetworkServices.Netfilter.ForwardedPacket
import NetworkServices.Netfilter.CallbackInverse
import NetworkServices.Netfilter.QueuemodProperties
import NetworkServices.RawSockets.TcpProperties
import NetworkServices.RawSockets.Udpv6Properties
import NetworkServices.Privileges.BoundPort
import NetworkServices.Iptables.AcceptedLanguage
import NetworkServices.Iptables.ConservativeExtension
import NetworkServices.Iptables.DeletedRule
import NetworkServices.Sftp.DownloadProperties
import NetworkServices.Sftp.ListingProperties
import NetworkServices.Sftp.PathsProperties
import NetworkServices.Palindrome.ServerProperties
import NetworkServices.Palindrome.SignificantDigits
import NetworkServices.Palindrome.InputCheck
import NetworkServices.Chat.Delivery
import NetworkServices.Chat.Readiness
import NetworkServices.Chat.ClientList
import NetworkServices.Chat.FdSetBounds
import NetworkServices.Sctp.EchoProperties
import NetworkServices.Sctp.Streams
import NetworkServices.Sctp.ReceiveBuffers
import NetworkServices.Sctp.DateServiceProperties
import NetworkServices.Greeting.ProgramsProperties
import NetworkServices.Greeting.ServersProperties
import NetworkServices.Palindrome.ServiceProperties
import NetworkServices.Palindrome.ClientProperties
import NetworkServices.Ssh.ConnectionDataProperties
import NetworkServices.Ssh.AuthenticationProperties
import NetworkServices.Ssh.PortOptions
import NetworkServices.Ssh.ProgramName
import NetworkServices.Ssh.PasswordLines
import NetworkServices.Ssh.RemoteOutput
import NetworkServices.Ssh.RemoteCommandProperties
import NetworkServices.Sftp.SessionProperties
import NetworkServices.Http.HandlerProperties
import NetworkServices.Http.ProcessProperties
import NetworkServices.Http.ConnectionProperties
import NetworkServices.Http.ResourcesProperties
import NetworkServices.Iptables.CommandProperties
import NetworkServices.Iptables.IptcCommandProperties
import NetworkServices.Privileges.CapServerRuns
import NetworkServices.Privileges.ProgramsProperties
import NetworkServices.RawSockets.PingForwarded
import NetworkServices.RawSockets.SendersProperties
import NetworkServices.RawSockets.PingPrograms
