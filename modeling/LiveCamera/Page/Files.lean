/-!
# The viewer page

The files of the viewer page as they are shipped: the page itself and its script. The script is a template
in which two places are filled before it is served.
-/

namespace LiveCamera.Page

def indexText : String :=
  "\n".intercalate [
    "<!DOCTYPE html>",
    "<html lang=\"en\">",
    "<head>",
    "    <meta charset=\"UTF-8\">",
    "    <meta name=\"viewport\" content=\"width=device-width, initial-scale=1.0\">",
    "    <title>WebRTC Streaming</title>",
    "    <style>",
    "        body \x7b",
    "            margin: 0;",
    "            min-height: 100vh;",
    "            display: flex;",
    "            flex-direction: column;",
    "            align-items: center;",
    "            justify-content: center;",
    "            background: #111;",
    "            color: #ddd;",
    "            font-family: -apple-system, BlinkMacSystemFont, 'Segoe UI', Roboto, sans-serif;",
    "        \x7d",
    "        video \x7b",
    "            max-width: 100vw;",
    "            max-height: 90vh;",
    "            background: #000;",
    "        \x7d",
    "        #status \x7b",
    "            margin-top: 0.75rem;",
    "            font-size: 0.9rem;",
    "            color: #888;",
    "        \x7d",
    "    </style>",
    "</head>",
    "<body>",
    "    <video id=\"video\" autoplay playsinline muted></video>",
    "    <div id=\"status\">Connecting...</div>",
    "    <script src=\"/client.js\"></script>",
    "</body>",
    "</html>",
    ""]

/-- The script of the page, as a template. -/
def clientText : String :=
  "\n".intercalate [
    "'use strict';",
    "",
    "(() => \x7b",
    "    const statusEl = document.getElementById('status');",
    "    const videoEl = document.getElementById('video');",
    "    const setStatus = (text) => \x7b statusEl.textContent = text; \x7d;",
    "",
    "    const clientId = Math.random().toString(36).slice(2, 10);",
    "    const wsUrl = 'ws://' + window.location.hostname + ':8001/' + clientId;",
    "    const websocket = new WebSocket(wsUrl);",
    "    let pc = null;",
    "",
    "    const send = (message) => \x7b",
    "        if (websocket.readyState === WebSocket.OPEN) \x7b",
    "            websocket.send(JSON.stringify(message));",
    "        \x7d",
    "    \x7d;",
    "",
    "    const waitForGathering = (conn, timeoutMs) => new Promise((resolve) => \x7b",
    "        if (conn.iceGatheringState === 'complete') \x7b",
    "            resolve();",
    "            return;",
    "        \x7d",
    "        const timer = setTimeout(resolve, timeoutMs);",
    "        conn.addEventListener('icegatheringstatechange', () => \x7b",
    "            if (conn.iceGatheringState === 'complete') \x7b",
    "                clearTimeout(timer);",
    "                resolve();",
    "            \x7d",
    "        \x7d);",
    "    \x7d);",
    "",
    "    const createPeer = () => \x7b",
    "        const conn = new RTCPeerConnection(\x7b",
    "            iceServers: [\x7b urls: ['stun:stun.l.google.com:19302'] \x7d],",
    "        \x7d);",
    "",
    "        conn.ontrack = (evt) => \x7b",
    "            if (evt.streams && evt.streams[0]) \x7b",
    "                videoEl.srcObject = evt.streams[0];",
    "            \x7d else \x7b",
    "                const stream = videoEl.srcObject || new MediaStream();",
    "                stream.addTrack(evt.track);",
    "                videoEl.srcObject = stream;",
    "            \x7d",
    "        \x7d;",
    "",
    "        conn.onconnectionstatechange = () => setStatus('Connection: ' + conn.connectionState);",
    "",
    "        conn.ondatachannel = (evt) => \x7b",
    "            const dc = evt.channel;",
    "            dc.onmessage = () => \x7b\x7d;",
    "        \x7d;",
    "",
    "        return conn;",
    "    \x7d;",
    "",
    "    const handleOffer = async (message) => \x7b",
    "        if (pc) \x7b",
    "            pc.close();",
    "        \x7d",
    "        pc = createPeer();",
    "        await pc.setRemoteDescription(\x7b type: 'offer', sdp: message.sdp \x7d);",
    "        const answer = await pc.createAnswer();",
    "        await pc.setLocalDescription(answer);",
    "        await waitForGathering(pc, 2000);",
    "",
    "        send(\x7b",
    "            id: 'server',",
    "            type: answer.type,",
    "            sdp: pc.localDescription.sdp,",
    "        \x7d);",
    "        setStatus('Answer sent');",
    "    \x7d;",
    "",
    "    websocket.onopen = () => \x7b",
    "        setStatus('Requesting stream...');",
    "        send(\x7b id: 'server', type: 'request' \x7d);",
    "    \x7d;",
    "",
    "    websocket.onmessage = async (evt) => \x7b",
    "        if (typeof evt.data !== 'string') \x7b",
    "            return;",
    "        \x7d",
    "        let message;",
    "        try \x7b",
    "            message = JSON.parse(evt.data);",
    "        \x7d catch (e) \x7b",
    "            console.warn('Bad signaling message', e);",
    "            return;",
    "        \x7d",
    "",
    "        if (message.type === 'offer') \x7b",
    "            try \x7b",
    "                await handleOffer(message);",
    "            \x7d catch (e) \x7b",
    "                console.error('Negotiation failed', e);",
    "                setStatus('Negotiation failed');",
    "            \x7d",
    "        \x7d else if (message.type === 'busy') \x7b",
    "            setStatus('Stream is in use by another viewer');",
    "        \x7d",
    "    \x7d;",
    "",
    "    websocket.onclose = () => setStatus('Signaling connection closed');",
    "    websocket.onerror = () => setStatus('Signaling connection failed');",
    "\x7d)();",
    ""]

def file? (name : String) : Option String :=
  if name = "index.html" then some indexText
  else if name = "client.js" then some clientText
  else none

end LiveCamera.Page
