import CallCenter.AgentManager.AgentCacheProof
import CallCenter.App.LookupCaches
import CallCenter.CallManager.CloseProof
import CallCenter.CallManager.Durations
import CallCenter.CallManager.Events
import CallCenter.CallManager.HangupCause
import CallCenter.CallManager.JoinProof
import CallCenter.CallManager.Reader
import CallCenter.CallManager.StateProof
import CallCenter.Chat.FailedInvite
import CallCenter.Chat.InviteProof
import CallCenter.Chat.Push
import CallCenter.Chat.Store
import CallCenter.ExternalCommands.CallConnection
import CallCenter.Model.Resource
import CallCenter.Mq.IMSubscription
import CallCenter.Queue.AgentCall
import CallCenter.Queue.Amd
import CallCenter.Queue.ChannelEvents
import CallCenter.Queue.ChatIdle
import CallCenter.Queue.ChatOfferProof
import CallCenter.Queue.DispatchProof
import CallCenter.Queue.DisposalProof
import CallCenter.Queue.DraftReport
import CallCenter.Queue.ErrorMask
import CallCenter.Queue.IMChargeProof
import CallCenter.Queue.IMHandoverProof
import CallCenter.Queue.IMIdle
import CallCenter.Queue.IMPreview
import CallCenter.Queue.JoinsProof
import CallCenter.Queue.LeavingProof
import CallCenter.Queue.OrphanProof
import CallCenter.Queue.ProcessingForm
import CallCenter.Queue.Redial
import CallCenter.Queue.Rejoin
import CallCenter.Queue.Renewal
import CallCenter.Queue.ShutdownProof
import CallCenter.Queue.TaskOrder
import CallCenter.Queue.TimeoutsProof
import CallCenter.Queue.TransferProof
import CallCenter.Store.BusyProof
import CallCenter.Store.Confirm
import CallCenter.Store.CounterSum
import CallCenter.Store.DirectMember
import CallCenter.Store.InboundCallProof
import CallCenter.Store.ListStatistic
import CallCenter.Store.MemberStatisticProof
import CallCenter.Store.OverDial
import CallCenter.Store.ReportsProof
import CallCenter.Trigger.Manager
