import SessionLayer.Json.Compact
import SessionLayer.Json.Kept
import SessionLayer.Proofs.Delivery.Capacity
import SessionLayer.Proofs.Delivery.Reordering
import SessionLayer.Proofs.Delivery.Sorted
import SessionLayer.Proofs.Endpoint.BanMessages
import SessionLayer.Proofs.Endpoint.Endurance
import SessionLayer.Proofs.Endpoint.Farewells
import SessionLayer.Proofs.Endpoint.Index
import SessionLayer.Proofs.Endpoint.Order
import SessionLayer.Proofs.Endpoint.Parting
import SessionLayer.Proofs.Endpoint.Punishment
import SessionLayer.Proofs.Endpoint.Refusals
import SessionLayer.Proofs.Endpoint.Replica
import SessionLayer.Proofs.Endpoint.Seats
import SessionLayer.Proofs.Endpoint.Silence
import SessionLayer.Proofs.Endpoint.Throughput
import SessionLayer.Proofs.Endpoint.Unreadable
import SessionLayer.Proofs.Flood.Escalation
import SessionLayer.Proofs.Flood.Purges
import SessionLayer.Proofs.Flood.Warnings
import SessionLayer.Proofs.Packet.Framing
import SessionLayer.Proofs.Packet.Normalised
import SessionLayer.Proofs.Packet.Stopped
import SessionLayer.Proofs.Packet.Written
import SessionLayer.Proofs.Server.Oversized
import SessionLayer.Proofs.Session.Acknowledged
import SessionLayer.Proofs.Session.Closed
import SessionLayer.Proofs.Session.InTurn
import SessionLayer.Proofs.Session.Repeats
import SessionLayer.Proofs.Session.Taking
import SessionLayer.Proofs.Session.Verdicts
import SessionLayer.Proofs.Text.Duration
import SessionLayer.Proofs.Timer
import SessionLayer.Proofs.Wire.Mirror
import SessionLayer.Server.Bench
import SessionLayer.Session.Report
import SessionLayer.Settings.Written
