/-!
The time zone database: for each zone the offsets from universal time that it has used, and the instants
at which it went from one to another, up to the end of 2037. Zones with rules that go on are listed change by
change. Offsets are rounded to whole minutes.
-/

namespace Coercion.Zone

/-- A row per zone: its name, the offsets that it uses in minutes, the first of them in force at the
beginning, and its changes in order. A change is the seconds since the one before it in base 36, the
first one counted from four thousand million seconds before 1970, followed by a capital letter that
numbers the offset from then on. -/
def table : List (String × String × String) := [
  ("Africa/Abidjan", "-16 0", "zvqf60B"),
  ("Africa/Accra", "-1 0 20 30", "11vsugkB24aamkC1yhyoBcjvlcC69weoBci0xcC69weoBci0xcC69weoBci0xcC69weoBcjvlcC69weoBci0xcC69weoBci0xcC69weoBci0xcC69weoBcjvlcC69weoBci0xcC69weoBci0xcC69weoBci0xcC69weoBcjvlcC69weoBci0xcC69weoBci0xcC69weoBci0xcC69weoBcjvlcC69weoBci0xcC69weoBci0xcC69weoBci0xcC69weoB683lcCcloeoB668xcCcloeoB1y8pcD21gem0B2fehm0D69vy0Bci1e0D69vy0Bcjw20D69vy0Bci1e0D69vy0Bci1e0D69vy0Bci1e0D69vy0B"),
  ("Africa/Addis_Ababa", "155 180", "1cl30k8B"),
  ("Africa/Algiers", "12 9 0 60 120", "p11kisBafgo4rC2qx1nlD5luo0C8y800Da4tc0C7vc00Dauqo0C7idc0Db7pc0C6sg00Dcyo00C7ayo0D53c00C9idxc0D3i040C51mw0D253uk0E9o2k0D92040E8l3s0Djutc0C4uy840D3rdzw0C46xc00D7x6o0C2xco40Dgkao0E9d440Dkiqg0C9d440D9q2s0C9cyk0D"),
  ("Africa/Asmara", "156 155 180", "oegf7wBo6mlccC"),
  ("Africa/Bamako", "-32 0 -60", "zvqfwgBbk956oCdqe840B"),
  ("Africa/Bangui", "74 60", "zvqaz8B"),
  ("Africa/Banjul", "-67 -60 0", "1ayypi4B4m1rp0C"),
  ("Africa/Bissau", "-62 -60 0", "zvqh74Bwvoyo0C"),
  ("Africa/Blantyre", "140 141 120", "zng2lsB79vrycC"),
  ("Africa/Brazzaville", "61 60", "zvqbl8B"),
  ("Africa/Bujumbura", "117 120", "oeggzcB"),
  ("Africa/Cairo", "125 120 180", "u0czajBkrj48lC40d80Ba31g0C7x3w0Ba4w40Caqyk0B80ys0Cb07w0B7tk40Cb07w0B8jhg0Ca8fw0B60go40C7el80Bawo40C7v980Bawqw0C7tk40Bb07w0C7tk40Bayd80C7tk40Bayd80C7tk40Bayd80C7tk40Bb07w0C7tk40Bayd80C7tk40Bayd80C7ves0Bawik0C7ves0Bayd80C7ves0Bawik0C7ves0Bawik0C7ves0Bawik0C7ves0Bayd80C7ves0Bawik0C7ves0Bawik0C7ves0Bawik0C7ves0Bayd80C7ves0Bawik0C7ves0Bawik0C7ves0Bawik0C7ves0Bayd80C7ves0Bawik0C7ves0Bf9x80C3i040Beluk0C462s0Bayd80C7ves0Bawik0C7ves0Bawik0C7ves0Bawik0C7ves0Bayd80C7ves0Bb5rw0C7m5g0Bawik0C7ves0Bawik0C7ves0Bayd80C7ves0Bawik0C7ves0Bawik0C7ves0Baqvs0C7x3w0Basys0C7x3w0Basys0C7x3w0Basys0C7x3w0Bb5xg0C7x3w0Basys0C7x3w0Basys0C7x3w0Basys0C7x3w0Basys0C7x3w0Bb5xg0C7x3w0Basys0C7x3w0Basys0C7k580Bb5xg0C6u7w0Bbvus0C6h980Bc8tg0C64ak0Bcyqs0C5anw0B1jms0C12t80B1w22s0C25p80B1sw40C2vmk0B4hbhg0C9cyk0B9d440C9px80B905g0C9px80B905g0C9px80B9d440C9cyk0B9d440C9cyk0B9d440C9cyk0B9d440C9px80B905g0C9px80B9d440C9cyk0B9d440C9cyk0B9d440C9cyk0B9d440C9cyk0B9d440C9px80B905g0C9px80B"),
  ("Africa/Casablanca", "-30 0 60", "10tw2hoBdi7nxgC3huk0B51k40C2znuk0B2dp9g0C776k0B8nt2s0C657w0B3ifxg0C3jp80Bva040C4qak0Be1ms0C7pp80Bcnms0C3afw0B2xi840Cxqqk0Bbp56s0C4qak0Be1ms0C45x80Bd2g40C51ek0Bc8tg0C64ak0Be1sc0C47uo0B1leo0C23xc0Basw00C3lmo0B1qyo0C40g00B7x6o0C4mo00B1stc0C4deo0B7x6o0C3ylc0B1stc0C51hc0B7x6o0C3lmo0B1stc0C5reo0B7k800C2vpc0B25s00C64dc0B7k800C2iqo0B1stc0Cgkao0B1stc0Cg7c00B25s00Cg7c00B1stc0Cg7c00B25s00Cg7c00B1stc0Cgkao0B1stc0Cg7c00B25s00Cg7c00B1stc0Cgkao0B1stc0Cg7c00B25s00Cg7c00B1stc0Cg7c00B25s00Cg7c00B1stc0Cgkao0B1stc0Cg7c00B25s00Cg7c00B1stc0Cg7c00B25s00Cg7c00B25s00Cg7c00B1stc0Cg7c00B25s00C"),
  ("Africa/Ceuta", "-21 0 60 120", "u53if4B91vek0C7x3w0B2vt440C8sqs0Bssyk0C8n6s0B9px80C905g0Ba2yo0C902o0Bk69dc0C657w0B3ifxg0C3jp80Bva040C4qak0Be1ms0C7pp80Bcnms0C3afw0B2xi840C129us0D9d1c0C9d1c0D9d1c0C9d1c0D9d1c0C9d1c0D9d1c0C9d1c0D9q000C9d1c0D9d1c0C9d1c0D9d1c0C9d1c0D9d1c0C9d1c0D9d1c0C9d1c0D9d1c0C9q000Dasw00C7x6o0Dasw00C7x6o0Dasw00C7x6o0Db5uo0C7k800Db5uo0C7k800Db5uo0C7x6o0Dasw00C7x6o0Dasw00C7x6o0Db5uo0C7k800Db5uo0C7k800Db5uo0C7k800Db5uo0C7x6o0Dasw00C7x6o0Dasw00C7x6o0Db5uo0C7k800Db5uo0C7k800Db5uo0C7x6o0Dasw00C7x6o0Dasw00C7x6o0Dasw00C7x6o0Db5uo0C7k800Db5uo0C7k800Db5uo0C7x6o0Dasw00C7x6o0Dasw00C7x6o0Db5uo0C7k800Db5uo0C7k800Db5uo0C7x6o0Dasw00C7x6o0Dasw00C7x6o0Dasw00C7x6o0Db5uo0C7k800Db5uo0C7k800Db5uo0C7x6o0Dasw00C7x6o0Dasw00C7x6o0Db5uo0C7k800Db5uo0C7k800Db5uo0C7k800Db5uo0C7x6o0Dasw00C7x6o0Dasw00C"),
  ("Africa/Conakry", "-55 0 -60", "zvqgykBbk944kCdhlk40B"),
  ("Africa/Dakar", "-70 -60 0", "zvqhncBfcoa7sC"),
  ("Africa/Dar_es_Salaam", "157 180 165", "19sq1t8B8ve49wC6sagp0B"),
  ("Africa/Djibouti", "173 180", "zm9frgB"),
  ("Africa/Douala", "39 60", "zvqcmgB"),
  ("Africa/El_Aaiun", "-53 -60 0 60", "1bd3y74Bm2g0c0Cvek0D4qak0Ce1ms0D7pp80Ccnms0D3afw0Cfke5g0D4qak0Ce1ms0D45x80Cd2g40D51ek0Cc8tg0D64ak0Ce1sc0D47uo0C1leo0D23xc0Casw00D3lmo0C1qyo0D40g00C7x6o0D4mo00C1stc0D4deo0C7x6o0D3ylc0C1stc0D51hc0C7x6o0D3lmo0C1stc0D5reo0C7k800D2vpc0C25s00D64dc0C7k800D2iqo0C1stc0Dgkao0C1stc0Dg7c00C25s00Dg7c00C1stc0Dg7c00C25s00Dg7c00C1stc0Dgkao0C1stc0Dg7c00C25s00Dg7c00C1stc0Dgkao0C1stc0Dg7c00C25s00Dg7c00C1stc0Dg7c00C25s00Dg7c00C1stc0Dgkao0C1stc0Dg7c00C25s00Dg7c00C1stc0Dg7c00C25s00Dg7c00C25s00Dg7c00C1stc0Dg7c00C25s00D"),
  ("Africa/Freetown", "-53 -60 -40 0", "10nvfjgBa4v6zoC681qoB7vcxcCawkeoB7vcxcCawkeoB7vcxcCayf2oB7vcxcCawkeoB7vcxcCawkeoB7vcxcCe1j2oB4qe9cC7dqoB16dy9cD"),
  ("Africa/Gaborone", "104 90 120 180", "lsj0acB9h5hysCl5xqu0D9cyk0C"),
  ("Africa/Harare", "124 120", "v9ogo4B"),
  ("Africa/Johannesburg", "112 90 120 180", "phyp8gB5rpt0oCkn7o60D9cyk0C9d440D9cyk0C"),
  ("Africa/Juba", "126 120 180", "19sq38cBkixuysC8l6k0Ba4w40C8n180Ba6qs0C8n180Ba31g0C8ovw0Ba16s0C8qqk0B9zc40C8sl80B9xhg0C8wak0B9ts40C8y580Ba4w40C8n180Ba31g0C8ovw0Ba16s0C8sl80B9xhg0C8ufw0B9vms0C8wak0B9ts40C8y580Ba4w40C8ovw0Ba16s0C8qqk0B7frw40Cazg180B"),
  ("Africa/Kampala", "130 180 150 165", "18hphr0Bs8lo4C9e6420D4p4vb0B"),
  ("Africa/Khartoum", "130 120 180", "19sq328Bkixv4wC8l6k0Ba4w40C8n180Ba6qs0C8n180Ba31g0C8ovw0Ba16s0C8qqk0B9zc40C8sl80B9xhg0C8wak0B9ts40C8y580Ba4w40C8n180Ba31g0C8ovw0Ba16s0C8sl80B9xhg0C8ufw0B9vms0C8wak0B9ts40C8y580Ba4w40C8ovw0Ba16s0C8qqk0B7frw40C9ac180B"),
  ("Africa/Kigali", "120", ""),
  ("Africa/Kinshasa", "61 60", "si1i94B"),
  ("Africa/Lagos", "14 0 30 60", "whk8ghB1kdnanA2ve7ddC2yfgknD"),
  ("Africa/Libreville", "38 60", "zvqco4B"),
  ("Africa/Lome", "5 0", "pyu8v0B"),
  ("Africa/Luanda", "53 52 60", "pg0emwBafpx08C"),
  ("Africa/Lubumbashi", "110 60 120", "si1g00Bbpwyb4C"),
  ("Africa/Lusaka", "113 120", "v9oh6kB"),
  ("Africa/Malabo", "35 0 60", "zvqcskBr44sakC"),
  ("Africa/Maputo", "130 120", "ybegdyB"),
  ("Africa/Maseru", "110 120 180", "v9ohbsBl5xrrcC9cyk0B"),
  ("Africa/Mbabane", "124 120", "v9ognsB"),
  ("Africa/Mogadishu", "181 180 150", "qegzcoBje91egCdkj2q0B"),
  ("Africa/Monrovia", "-43 -44 0", "13mawf0Brl202aC"),
  ("Africa/Nairobi", "147 150 180 165", "xysq9oBaiwqjgCsg1a0B3nbte0D2wu1z0C"),
  ("Africa/Ndjamena", "60 120", "1z9agz4B7iak0A"),
  ("Africa/Niamey", "8 -60 0 60", "zvqe10Bbk99u4Cdhlek0D"),
  ("Africa/Nouakchott", "-64 0 -60", "zvqhdgBbk93poCdyodg0B"),
  ("Africa/Ouagadougou", "-6 0", "zvqep8B"),
  ("Africa/Porto-Novo", "10 0 60", "zvqdxoBbk975gC"),
  ("Africa/Sao_Tome", "27 -37 0 60", "l9pbu8Bem12kwC1jbm840Dirxc0C"),
  ("Africa/Tripoli", "53 60 120", "1421fz8Bgl6ajwC422c0Bxado0C4bbo0Bwrpg0C4s580B1kdpg0Cc05bw0B4mqs0C9et80B9d440C9et80B9eys0C9et80B9mdg0C95jw0B9io40C9cyk0B99es0C9et80B9eys0C9et80B9d440C9et80Bb2840C3cf3w0B9kis0C855s40B75eo0C"),
  ("Africa/Tunis", "41 9 60 120", "jw44j8Bfke44bCenxevlDb5uo0C53c00Du8w00C7x9g0Dc8w80C7k800Dz3w0Cew40D8bx80C9d440D9nx00C925o0D8l100Cgi3440D7k800Cb9k00D7vc00C51mw00D5ytc0C9d1c0D9d1c0Cb9k00D7thc0C7m0tc0D7tk40C93us0Db5uo0C7k800Db5uo0C7x6o0Dasw00C"),
  ("Africa/Windhoek", "68 90 120 180 60", "phyr94B5rpr00Ckn7o60D9cyk0Cqm87w0E8lho0Cast80E7x9g0Cb5rw0E7kas0Cb5rw0E7x9g0Cast80E7x9g0Cast80E7x9g0Cast80E7x9g0Cast80E7x9g0Cb5rw0E7kas0Cb5rw0E7x9g0Cast80E7x9g0Cast80E7x9g0Cast80E7x9g0Cast80E7x9g0Cb5rw0E7x9g0Cast80E7x9g0Cast80E7x9g0Cast80E7x9g0Cast80E7x9g0Cb5rw0E7kas0Cb5rw0E7x9g0Cast80E7x9g0Cast80E7x9g0Cast80E7x9g0C"),
  ("America/Adak", "733 -707 -660 -600 -540", "cta575Bh4z1xpCln70qaD1wd180Ccawis0D9cyk0C9d440D9cyk0C9d440D9px80C9d440D9cyk0C9d440D9cyk0C3lpg0Df4d80C64g40Dclmk0C9d440D9px80C905g0D9px80C9d440D9cyk0C9d440D9cyk0C9d440D9cyk0C9d440D9cyk0C9d440D9px80C905g0Dj2yk0E9cyk0D9d440E9cyk0D9d440E9cyk0D8a840Eafuk0D8a840East80D7x9g0East80D7x9g0East80D8a840Eafuk0D8a840Eafuk0D8a840East80D7x9g0East80D7x9g0East80D8a840Eafuk0D8a840Eafuk0D8a840Eafuk0D8a840East80D7x9g0East80D7x9g0East80D8a840Eafuk0D8a840Eafuk0D8a840East80D7x9g0East80D7x9g0East80D6udg0Ec8nw0D6hes0Ec8nw0D6hes0Ec8nw0D6udg0Ec8nw0D6hes0Ec8nw0D6hes0Ec8nw0D6hes0Ec8nw0D6hes0Ec8nw0D6hes0Ec8nw0D6udg0Ec8nw0D6hes0Ec8nw0D6hes0Ec8nw0D6hes0Ec8nw0D6hes0Ec8nw0D6udg0Ec8nw0D6hes0Ec8nw0D6hes0Ec8nw0D6hes0Ec8nw0D6hes0Ec8nw0D6hes0Ec8nw0D6udg0Ec8nw0D6hes0Ec8nw0D6hes0Ec8nw0D6hes0Ec8nw0D6hes0Ec8nw0D6udg0Ec8nw0D6hes0Ec8nw0D6hes0Ec8nw0D6hes0Ec8nw0D6hes0Ec8nw0D6hes0Ec8nw0D"),
  ("America/Anchorage", "840 -600 -540 -480", "cta575B12s5zvzC1wd180Bcawis0C9cyk0B9d440C9cyk0B9d440C9px80B9d440C9cyk0B9d440C9cyk0B3lpg0Cf4d80B64g40Cclmk0B9d440C9px80B905g0C9px80B9d440C9cyk0B9d440C9cyk0B9d440C9cyk0B9d440C9cyk0B9d440C9px80B905g0Cj2yk0D9cyk0C9d440D9cyk0C9d440D9cyk0C8a840Dafuk0C8a840Dast80C7x9g0Dast80C7x9g0Dast80C8a840Dafuk0C8a840Dafuk0C8a840Dast80C7x9g0Dast80C7x9g0Dast80C8a840Dafuk0C8a840Dafuk0C8a840Dafuk0C8a840Dast80C7x9g0Dast80C7x9g0Dast80C8a840Dafuk0C8a840Dafuk0C8a840Dast80C7x9g0Dast80C7x9g0Dast80C6udg0Dc8nw0C6hes0Dc8nw0C6hes0Dc8nw0C6udg0Dc8nw0C6hes0Dc8nw0C6hes0Dc8nw0C6hes0Dc8nw0C6hes0Dc8nw0C6hes0Dc8nw0C6udg0Dc8nw0C6hes0Dc8nw0C6hes0Dc8nw0C6hes0Dc8nw0C6hes0Dc8nw0C6udg0Dc8nw0C6hes0Dc8nw0C6hes0Dc8nw0C6hes0Dc8nw0C6hes0Dc8nw0C6hes0Dc8nw0C6udg0Dc8nw0C6hes0Dc8nw0C6hes0Dc8nw0C6hes0Dc8nw0C6hes0Dc8nw0C6udg0Dc8nw0C6hes0Dc8nw0C6hes0Dc8nw0C6hes0Dc8nw0C6hes0Dc8nw0C6hes0Dc8nw0C"),
  ("America/Anguilla", "-252 -240", "zyvorkB"),
  ("America/Antigua", "-247 -300 -240", "zyvoj4Bk9mqg0C"),
  ("America/Araguaina", "-193 -180 -120", "10xccogB99k8moC9a9c0B9io40C99980B8p65g0C6zuo0Bbs2o0C67zw0Bcjxg0C69uk0Bcjxg0C4ml80B5mf440C49mk0Bhaas0C316k0Bcls40C4ml80Bcls40C66580Bcls40C67zw0B981s40C6u7w0Bbiw40C5rbw0Bd0lg0C5ed80Bcyqs0C5ed80Bdbpg0C64ak0B2yl440C64ak0Bc8tg0C6u7w0Bbxpg0C7iak0Bbiw40C6u7w0Bbiw40C7k580Bbiw40C6u7w0Bc8tg0C6h980Bdbpg0C5ed80B51udg0C64ak0B"),
  ("America/Argentina/Buenos_Aires", "-234 -257 -240 -180 -120", "qx7l8sBdb2bqcC5iv8k0D67zw0Ca4w40D73h80Ccls40D66580Ccls40D66580Ccls40D66580Ccls40D67zw0Ccls40D66580Ccls40D66580Ccls40D66580Ccls40D67zw0C6a040Dhy7w0C6a040Dxovw0C3uys0D18nbw0Cb0dg0D8ve2k0C3uys0D3yik0Cbqas0D71mk0Cbqas0D71mk0Cbqas0D8ovw0C9d440D9px80C9d440D9cyk0C9d440D28t6k0E51ek0D7m2qs0E4tzw0Dbiw40E776k0Dbvus0E6u7w0Dbvus0E6u7w0Dbvus0E776k0D7qcg40E3yik0Db5xg0E7k580D"),
  ("America/Argentina/Catamarca", "-263 -257 -240 -180 -120", "qx7mloBdb2adgC5iv8k0D67zw0Ca4w40D73h80Ccls40D66580Ccls40D66580Ccls40D66580Ccls40D67zw0Ccls40D66580Ccls40D66580Ccls40D66580Ccls40D67zw0C6a040Dhy7w0C6a040Dxovw0C3uys0D18nbw0Cb0dg0D8ve2k0C3uys0D3yik0Cbqas0D71mk0Cbqas0D71mk0Cbqas0D8ovw0C9d440D9px80C9d440D9cyk0C9d440D28t6k0E51ek0D7m2qs0E4tzw0Dbiw40E776k0Dbvus0E6u7w0Cbvxk0E6u540Dbvus0E776k0D5v42s0Cz9g0D1u93w0E3yik0D"),
  ("America/Argentina/Cordoba", "-257 -240 -180 -120", "1489wz4B5iv8k0C67zw0Ba4w40C73h80Bcls40C66580Bcls40C66580Bcls40C66580Bcls40C67zw0Bcls40C66580Bcls40C66580Bcls40C66580Bcls40C67zw0B6a040Chy7w0B6a040Cxovw0B3uys0C18nbw0Bb0dg0C8ve2k0B3uys0C3yik0Bbqas0C71mk0Bbqas0C71mk0Bbqas0C8ovw0B9d440C9px80B9d440C9cyk0B9d440C28t6k0D51ek0C7m2qs0D4tzw0Cbiw40D776k0Cbvus0D6u7w0Bbvxk0D6u540Cbvus0D776k0C7qcg40D3yik0Cb5xg0D7k580C"),
  ("America/Argentina/Jujuy", "-261 -257 -240 -180 -120", "qx7migBdb2agoC5iv8k0D67zw0Ca4w40D73h80Ccls40D66580Ccls40D66580Ccls40D66580Ccls40D67zw0Ccls40D66580Ccls40D66580Ccls40D66580Ccls40D67zw0C6a040Dhy7w0C6a040Dxovw0C3uys0D18nbw0Cb0dg0D8ve2k0C3uys0D3yik0Cbqas0D71mk0Cbqas0D71mk0Cbqas0D8ovw0C9d440D9px80C9d440D9cyk0C9d440D28t6k0E51ek0D7m2qs0E4tzw0Dbiw40E776k0Cc8w80D776k0Cag040E7k2g0Dbvus0E776k0D7qcg40E3yik0D"),
  ("America/Argentina/La_Rioja", "-267 -257 -240 -180 -120", "qx7mssBdb2a6cC5iv8k0D67zw0Ca4w40D73h80Ccls40D66580Ccls40D66580Ccls40D66580Ccls40D67zw0Ccls40D66580Ccls40D66580Ccls40D66580Ccls40D67zw0C6a040Dhy7w0C6a040Dxovw0C3uys0D18nbw0Cb0dg0D8ve2k0C3uys0D3yik0Cbqas0D71mk0Cbqas0D71mk0Cbqas0D8ovw0C9d440D9px80C9d440D9cyk0C9d440D28t6k0E51ek0D7m2qs0E4tzw0Dbiw40E776k0Dbvus0E6qik0C3g880D8jbw0E6u7w0Dbvus0E776k0D5v42s0Cz9g0D1u93w0E3yik0D"),
  ("America/Argentina/Mendoza", "-275 -257 -240 -180 -120", "qx7n5wBdb29t8C5iv8k0D67zw0Ca4w40D73h80Ccls40D66580Ccls40D66580Ccls40D66580Ccls40D67zw0Ccls40D66580Ccls40D66580Ccls40D66580Ccls40D67zw0C6a040Dhy7w0C6a040Dxovw0C3uys0D18nbw0Cb0dg0D8ve2k0C3uys0D3yik0Cbqas0D71mk0Cbqas0D71mk0Cbqas0D8ovw0C9d440D9px80C9d440D9cyk0C9d440D28t6k0E51ek0D7m2qs0E4tzw0Dbiw40E776k0Cbktk0D71mk0Cbqas0D73h80Cbvus0E773s0D5unes0C6hes0D1p7mk0E3yik0D"),
  ("America/Argentina/Rio_Gallegos", "-277 -257 -240 -180 -120", "qx7n8kBdb29qkC5iv8k0D67zw0Ca4w40D73h80Ccls40D66580Ccls40D66580Ccls40D66580Ccls40D67zw0Ccls40D66580Ccls40D66580Ccls40D66580Ccls40D67zw0C6a040Dhy7w0C6a040Dxovw0C3uys0D18nbw0Cb0dg0D8ve2k0C3uys0D3yik0Cbqas0D71mk0Cbqas0D71mk0Cbqas0D8ovw0C9d440D9px80C9d440D9cyk0C9d440D28t6k0E51ek0D7m2qs0E4tzw0Dbiw40E776k0Dbvus0E6u7w0Dbvus0E6u7w0Dbvus0E776k0D5v42s0Cz9g0D1u93w0E3yik0D"),
  ("America/Argentina/Salta", "-262 -257 -240 -180 -120", "qx7mj8Bdb2afwC5iv8k0D67zw0Ca4w40D73h80Ccls40D66580Ccls40D66580Ccls40D66580Ccls40D67zw0Ccls40D66580Ccls40D66580Ccls40D66580Ccls40D67zw0C6a040Dhy7w0C6a040Dxovw0C3uys0D18nbw0Cb0dg0D8ve2k0C3uys0D3yik0Cbqas0D71mk0Cbqas0D71mk0Cbqas0D8ovw0C9d440D9px80C9d440D9cyk0C9d440D28t6k0E51ek0D7m2qs0E4tzw0Dbiw40E776k0Dbvus0E6u7w0Cbvxk0E6u540Dbvus0E776k0D7qcg40E3yik0D"),
  ("America/Argentina/San_Juan", "-274 -257 -240 -180 -120", "qx7n3wBdb29v8C5iv8k0D67zw0Ca4w40D73h80Ccls40D66580Ccls40D66580Ccls40D66580Ccls40D67zw0Ccls40D66580Ccls40D66580Ccls40D66580Ccls40D67zw0C6a040Dhy7w0C6a040Dxovw0C3uys0D18nbw0Cb0dg0D8ve2k0C3uys0D3yik0Cbqas0D71mk0Cbqas0D71mk0Cbqas0D8ovw0C9d440D9px80C9d440D9cyk0C9d440D28t6k0E51ek0D7m2qs0E4tzw0Dbiw40E776k0Dbvus0E6qik0C3g880D8jbw0E6u7w0Dbvus0E776k0D5v2840C2txg0D1sgak0E3yik0D"),
  ("America/Argentina/San_Luis", "-265 -257 -240 -180 -120", "qx7mpgBdb2a9oC5iv8k0D67zw0Ca4w40D73h80Ccls40D66580Ccls40D66580Ccls40D66580Ccls40D67zw0Ccls40D66580Ccls40D66580Ccls40D66580Ccls40D67zw0C6a040Dhy7w0C6a040Dxovw0C3uys0D18nbw0Cb0dg0D8ve2k0C3uys0D3yik0Cbqas0D71mk0Cbqas0D71mk0Cbqas0D8ovw0C9d440D9px80C9d440D9cyk0C9d440D28t6k0E51ek0D7m2qs0E4tzw0Dbiw40E7pp80Cb2aw0D71mk0C4qg40D6s8ik0C2txg0D1sgak0E14nw0D2gys0Cb5xg0D7k580Cb5xg0D"),
  ("America/Argentina/Tucuman", "-261 -257 -240 -180 -120", "qx7mhwBdb2ah8C5iv8k0D67zw0Ca4w40D73h80Ccls40D66580Ccls40D66580Ccls40D66580Ccls40D67zw0Ccls40D66580Ccls40D66580Ccls40D66580Ccls40D67zw0C6a040Dhy7w0C6a040Dxovw0C3uys0D18nbw0Cb0dg0D8ve2k0C3uys0D3yik0Cbqas0D71mk0Cbqas0D71mk0Cbqas0D8ovw0C9d440D9px80C9d440D9cyk0C9d440D28t6k0E51ek0D7m2qs0E4tzw0Dbiw40E776k0Dbvus0E6u7w0Cbvxk0E6u540Dbvus0E776k0D5v42s0Cmas0D1um2k0E3yik0Db5xg0E7k580D"),
  ("America/Argentina/Ushuaia", "-273 -257 -240 -180 -120", "qx7n2gBdb29woC5iv8k0D67zw0Ca4w40D73h80Ccls40D66580Ccls40D66580Ccls40D66580Ccls40D67zw0Ccls40D66580Ccls40D66580Ccls40D66580Ccls40D67zw0C6a040Dhy7w0C6a040Dxovw0C3uys0D18nbw0Cb0dg0D8ve2k0C3uys0D3yik0Cbqas0D71mk0Cbqas0D71mk0Cbqas0D8ovw0C9d440D9px80C9d440D9cyk0C9d440D28t6k0E51ek0D7m2qs0E4tzw0Dbiw40E776k0Dbvus0E6u7w0Dbvus0E6u7w0Dbvus0E776k0D5v0dg0C12ys0D1u93w0E3yik0D"),
  ("America/Aruba", "-280 -270 -240", "zxwjegBrlo7ioC"),
  ("America/Asuncion", "-231 -240 -180", "1a78rrkBldwofkCs4vw0Bs6w40C7tek0Bb0dg0C7rjw0Bb0dg0C7rjw0Bb0dg0C9cyk0B9eys0C9et80B9eys0C9cyk0B9eys0C9cyk0B9eys0C9cyk0B9eys0C9et80B9eys0C9cyk0B9eys0C9cyk0B9eys0C9cyk0B9eys0C9et80B9eys0C9cyk0Bahus0C8a2k0B9eys0C9cyk0B9o840C7k580Bb7s40C93p80B9gtg0C7nuk0Bb42s0C7lzw0Bb5xg0C7tek0Bb9ms0C776k0Bbiw40C7k580Bb5xg0C7x3w0Basys0C7x3w0Basys0C7x3w0Bb5xg0C9cyk0B7kas0Cb5rw0B7x9g0Cast80Ba31g0C7k580Bb5xg0C7k580Bb5xg0C7k580Bbiw40C776k0Bbiw40C776k0Bbiw40C8zzw0B905g0C9px80B905g0C9px80B9d440C8n180Ba31g0C8n180Ba31g0C8n180Ba31g0C8zzw0B9q2s0C8zzw0B9q2s0C8zzw0Ba31g0C8n180Ba31g0C8n180Ba31g0C8zzw0B9q2s0C8zzw0B9q2s0C8zzw0B9q2s0C8zzw0Ba31g0C"),
  ("America/Atikokan", "-366 -360 -300", "r0ekpwBc5efx8Ca2vw0Bbfxjw0C"),
  ("America/Bahia", "-154 -180 -120", "10xcavwB99kaf8C9a9c0B9io40C99980B8p65g0C6zuo0Bbs2o0C67zw0Bcjxg0C69uk0Bcjxg0C4ml80B5mf440C49mk0Bhaas0C316k0Bcls40C4ml80Bcls40C66580Bcls40C67zw0B981s40C6u7w0Bbiw40C5rbw0Bd0lg0C5ed80Bcyqs0C5ed80Bdbpg0C64ak0Bcyqs0C64ak0Bcls40C5rbw0Bdbpg0C51ek0Bdbpg0C6h980Bc8tg0C6h980Bc8tg0C64ak0Bc8tg0C6u7w0Bbxpg0C7iak0Bbiw40C6u7w0Bbiw40C7k580Bbiw40C6u7w0Bc8tg0C6h980Bdbpg0C5ed80B4irc40C6u7w0B"),
  ("America/Bahia_Banderas", "-421 -420 -360 -300", "153nr74B2u5s00C1si580B8jhg0C7x3w0B9eys0C591h80Bs5qoc0Cafuk0B8a840Cafuk0B8a840Cafuk0B8a840Cast80B7x9g0Cast80B9q2s0C7k580B9q2s0Cafuk0B8a840Cafuk0B8a840Cast80B7x9g0Cast80B7x9g0Cast80B7x9g0Cast80B8a840Cafuk0B8a840Cafuk0B8a840Dasqg0C7x9g0Dast80C7x9g0Dast80C8a840Dafuk0C8a840Dafuk0C8a840Dafuk0C8a840Dast80C7x9g0Dast80C7x9g0Dast80C8a840Dafuk0C8a840Dafuk0C8a840Dast80C7x9g0Dast80C"),
  ("America/Barbados", "-238 -240 -180 -210", "zp9dglBfzq06jC6w840Bcjrw0C6hes0Bb7mk0D7ves0Bh3dpc0C5rbw0Ba31g0C8n180Ba31g0C8n180Bag040C84ik0B"),
  ("America/Belem", "-194 -180 -120", "10xccqcB99k8ksC9a9c0B9io40C99980B8p65g0C6zuo0Bbs2o0C67zw0Bcjxg0C69uk0Bcjxg0C4ml80B5mf440C49mk0Bhaas0C316k0Bcls40C4ml80Bcls40C66580Bcls40C67zw0B981s40C6u7w0Bbiw40C5rbw0Bd0lg0C5ed80B"),
  ("America/Belize", "-353 -360 -330 -300", "100fdf4B3edkc0C6ham0Bc8s20C6u9a0Bbvte0C6u9a0Bbvte0C6u9a0Bc8s20C6ham0Bc8s20C6ham0Bc8s20C6u9a0Bbvte0C6u9a0Bbvte0C6u9a0Bbvte0C6u9a0Bc8s20C6ham0Bc8s20C6ham0Bc8s20C6u9a0Bbvte0C6u9a0Bbvte0C6u9a0Bc8s20C6ham0Bc8s20C6ham0Bc8s20C6ham0Bc8s20C6u9a0Bbvte0C6u9a0Bbvte0C6u9a0Bc8s20C6ham0Bc8s20C6ham0Bc8s20C6u9a0B6uc20D1t67w0Bxulg0C6u9a0Bbvte0C6u9a0Bbvte0C6u9a0Bc8s20C6ham0Bc8s20C6ham0Bc8s20C6u9a0Bbvte0C6u9a0Bbvte0C6u9a0Bbvte0C6u9a0Bc8s20C6ham0Bc8s20C6ham0Bc8s20C6u9a0Bbvte0C6u9a0Bbvte0C6u9a0Bc8s20C6ham0Bc8s20C6ham0Bc8s20C6ham0Bc8s20C6u9a0Bbvte0C6u9a0Bbvte0C6u9a0Bc8s20C6ham0B319de0D3e580B4mcys0D2vmk0B"),
  ("America/Blanc-Sablon", "-228 -240 -180", "l9pnnwBhw37f8Ca2vw0Bc5jxg0C1wd180B"),
  ("America/Boa_Vista", "-243 -240 -180", "10xcezkB99k93kC9a9c0B9io40C99980B8p65g0C6zuo0Bbs2o0C67zw0Bcjxg0C69uk0Bcjxg0C4ml80B5mf440C49mk0Bhaas0C316k0Bcls40C4ml80Bcls40C66580Bcls40C67zw0B981s40C6u7w0Bbiw40C5rbw0Bd0lg0C5ed80B62xk40C7k580Bbiw40Ccvw0B"),
  ("America/Bogota", "-296 -300 -240", "11e46swB14f1hi8Ceefw0B"),
  ("America/Boise", "-465 -480 -420 -360", "l7hfb4Bhxltk0Cast80B7x9g0Cast80B1um840C9s7jw0D1wd180Cb9gdg0D9cyk0C9d440D9cyk0C9d440D9cyk0C9d440D9cyk0C9d440D9px80C9d440D9cyk0C9d440D9cyk0C51k40Ddoik0C64g40Dclmk0C9d440D9px80C905g0D9px80C9d440D9cyk0C9d440D9cyk0C9d440D9cyk0C9d440D9cyk0C9d440D9px80C905g0D9px80C9d440D9cyk0C9d440D9cyk0C9d440D9cyk0C8a840Dafuk0C8a840Dast80C7x9g0Dast80C7x9g0Dast80C8a840Dafuk0C8a840Dafuk0C8a840Dast80C7x9g0Dast80C7x9g0Dast80C8a840Dafuk0C8a840Dafuk0C8a840Dafuk0C8a840Dast80C7x9g0Dast80C7x9g0Dast80C8a840Dafuk0C8a840Dafuk0C8a840Dast80C7x9g0Dast80C7x9g0Dast80C6udg0Dc8nw0C6hes0Dc8nw0C6hes0Dc8nw0C6udg0Dc8nw0C6hes0Dc8nw0C6hes0Dc8nw0C6hes0Dc8nw0C6hes0Dc8nw0C6hes0Dc8nw0C6udg0Dc8nw0C6hes0Dc8nw0C6hes0Dc8nw0C6hes0Dc8nw0C6hes0Dc8nw0C6udg0Dc8nw0C6hes0Dc8nw0C6hes0Dc8nw0C6hes0Dc8nw0C6hes0Dc8nw0C6hes0Dc8nw0C6udg0Dc8nw0C6hes0Dc8nw0C6hes0Dc8nw0C6hes0Dc8nw0C6hes0Dc8nw0C6udg0Dc8nw0C6hes0Dc8nw0C6hes0Dc8nw0C6hes0Dc8nw0C6hes0Dc8nw0C6hes0Dc8nw0C"),
  ("America/Cambridge_Bay", "0 -420 -360 -300", "1421if4Bbjeec0C1wd180Bdvfpg0C9cyk0B9d440C9cyk0B9d440C9cyk0B9d440C9cyk0B9d440C9px80B905g0C9px80B9d440C9cyk0B9d440C9cyk0B9d440C9cyk0B9d440C9cyk0B9d440C9px80B905g0C9px80B9d440C9cyk0B9d440C9cyk0B9d440C9cyk0B8a840Cafuk0B8a840Cast80B7x9g0Cast80B7x9g0Cast80B8a840Cafuk0B8a840Cafuk0B8a840Cast80B7x9g0Cast80B7x9g0Cast80B8a840Cafuk0B8a840Cafuk0B8a840Cafuk0B8a840Cipzw0Db5mc0Cidcc0B8a840Cafuk0B8a840Cafuk0B8a840Cast80B7x9g0Cast80B7x9g0Cast80B6udg0Cc8nw0B6hes0Cc8nw0B6hes0Cc8nw0B6udg0Cc8nw0B6hes0Cc8nw0B6hes0Cc8nw0B6hes0Cc8nw0B6hes0Cc8nw0B6hes0Cc8nw0B6udg0Cc8nw0B6hes0Cc8nw0B6hes0Cc8nw0B6hes0Cc8nw0B6hes0Cc8nw0B6udg0Cc8nw0B6hes0Cc8nw0B6hes0Cc8nw0B6hes0Cc8nw0B6hes0Cc8nw0B6hes0Cc8nw0B6udg0Cc8nw0B6hes0Cc8nw0B6hes0Cc8nw0B6hes0Cc8nw0B6hes0Cc8nw0B6udg0Cc8nw0B6hes0Cc8nw0B6hes0Cc8nw0B6hes0Cc8nw0B6hes0Cc8nw0B6hes0Cc8nw0B"),
  ("America/Campo_Grande", "-218 -240 -180", "10xcdv8B99ka7wC9a9c0B9io40C99980B8p65g0C6zuo0Bbs2o0C67zw0Bcjxg0C69uk0Bcjxg0C4ml80B5mf440C49mk0Bhaas0C316k0Bcls40C4ml80Bcls40C66580Bcls40C67zw0B981s40C6u7w0Bbiw40C5rbw0Bd0lg0C5ed80Bcyqs0C5ed80Bdbpg0C64ak0Bcyqs0C64ak0Bcls40C5rbw0Bdbpg0C51ek0Bdbpg0C6h980Bc8tg0C6h980Bc8tg0C64ak0Bc8tg0C6u7w0Bbxpg0C7iak0Bbiw40C6u7w0Bbiw40C7k580Bbiw40C6u7w0Bc8tg0C6h980Bdbpg0C5ed80Bcls40C64ak0Bdfes0C5nmk0Bc8tg0C6h980Bdbpg0C5rbw0Bbvus0C6h980Bcls40C64ak0Bcls40C6h980Bc8tg0C6h980Bc8tg0C6u7w0Bc8tg0C64ak0Bcls40C64ak0Bcls40C6h980Bc8tg0C6h980Bc8tg0C6h980Bc8tg0C6h980Bdbpg0C5ed80B"),
  ("America/Cancun", "-347 -360 -300 -240", "153nof4Bvb0dk0Cj8d00B6x2wc0Cafuk0B8a840Cipzw0D64ak0C4bms0B8a840Cast80B7x9g0Cast80B9q2s0C7k580B9q2s0Cafuk0B8a840Cafuk0B8a840Cast80B7x9g0Cast80B7x9g0Cast80B7x9g0Cast80B8a840Cafuk0B8a840Cafuk0B8a840Cast80B7x9g0Cast80B7x9g0Cast80B8a840Cafuk0B8a840Cafuk0B51k40C"),
  ("America/Caracas", "-268 -270 -240", "zxwit8Brlo83wCmeoxm0B4dps00C"),
  ("America/Cayenne", "-209 -240 -180", "zm9xg0Btcw6r4C"),
  ("America/Cayman", "-326 -307 -300", "oeh1hoBbiv5teC"),
  ("America/Chicago", "-351 -360 -300", "l7h9r4Bhxltk0Cast80B7x9g0Cast80Bbvus0C776k0B7kas0Cb5rw0B9d440C7k580Bb5xg0C7x3w0Basys0C7x3w0Basys0C7x3w0Basys0C7x3w0Basys0C7x3w0Bb5xg0C7x3w0Basys0C7x3w0Basys0C7x3w0Basys0C7x3w0Basys0C7x3w0Bb5xg0C7k580Bb5xg0C7x3w0Basys0C7x3w0B7x9g0Cdbjw0B8a840C7x3w0Basys0C7x3w0Bb5xg0C7k580Bb5xg0C7x3w0Basys0C7x3w0B6w840C1wd180Basys0C7x3w0Basys0C7x3w0Basys0C7x3w0Basys0C7x3w0Bb5xg0C7k580Bb5xg0C7x3w0Basys0C7x3w0Basys0C7x3w0Basys0C7x3w0Basys0C9px80B9d440C9cyk0B9d440C9cyk0B9d440C9cyk0B9d440C9cyk0B9d440C9px80B9d440C9cyk0B9d440C9cyk0B9d440C9cyk0B9d440C9cyk0B9d440C9px80B905g0C9px80B9d440C9cyk0B9d440C9cyk0B9d440C9cyk0B9d440C9cyk0B9d440C9px80B9d440C9cyk0B9d440C9cyk0B3lpg0Cf4d80B64g40Cclmk0B9d440C9px80B905g0C9px80B9d440C9cyk0B9d440C9cyk0B9d440C9cyk0B9d440C9cyk0B9d440C9px80B905g0C9px80B9d440C9cyk0B9d440C9cyk0B9d440C9cyk0B8a840Cafuk0B8a840Cast80B7x9g0Cast80B7x9g0Cast80B8a840Cafuk0B8a840Cafuk0B8a840Cast80B7x9g0Cast80B7x9g0Cast80B8a840Cafuk0B8a840Cafuk0B8a840Cafuk0B8a840Cast80B7x9g0Cast80B7x9g0Cast80B8a840Cafuk0B8a840Cafuk0B8a840Cast80B7x9g0Cast80B7x9g0Cast80B6udg0Cc8nw0B6hes0Cc8nw0B6hes0Cc8nw0B6udg0Cc8nw0B6hes0Cc8nw0B6hes0Cc8nw0B6hes0Cc8nw0B6hes0Cc8nw0B6hes0Cc8nw0B6udg0Cc8nw0B6hes0Cc8nw0B6hes0Cc8nw0B6hes0Cc8nw0B6hes0Cc8nw0B6udg0Cc8nw0B6hes0Cc8nw0B6hes0Cc8nw0B6hes0Cc8nw0B6hes0Cc8nw0B6hes0Cc8nw0B6udg0Cc8nw0B6hes0Cc8nw0B6hes0Cc8nw0B6hes0Cc8nw0B6hes0Cc8nw0B6udg0Cc8nw0B6hes0Cc8nw0B6hes0Cc8nw0B6hes0Cc8nw0B6hes0Cc8nw0B6hes0Cc8nw0B"),
  ("America/Chihuahua", "-424 -420 -360 -300", "153nr74B2u5s00C1si580B8jhg0C7x3w0B9eys0Cxes2s0Dafuk0C8a840Dafuk0Ciq5g0B8a840Cast80B7x9g0Cast80B9q2s0C7k580B9q2s0Cafuk0B8a840Cafuk0B8a840Cast80B7x9g0Cast80B7x9g0Cast80B7x9g0Cast80B8a840Cafuk0B8a840Cafuk0B8a840Cast80B7x9g0Cast80B7x9g0Cast80B8a840Cafuk0B8a840Cafuk0B8a840Cafuk0B8a840Cast80B7x9g0Cast80B7x9g0Cast80B8a840Cafuk0B8a840Cafuk0B8a840Cast80B7x9g0C"),
  ("America/Ciudad_Juarez", "-426 -420 -360 -300", "153nr74B2u5s00C1si580B8jhg0C7x3w0B9eys0Cxes2s0Dafuk0C8a840Dafuk0Ciq5g0B8a840Cast80B7x9g0Cast80B9q2s0C7k580B9q2s0Cafuk0B8a840Cafuk0B8a840Cast80B7x9g0Cast80B7x9g0Cast80B7x9g0Cast80B8a840Cafuk0B8a840Cafuk0B77c40Cc8nw0B6hes0Cc8nw0B6hes0Cc8nw0B6hes0Cc8nw0B6hes0Cc8nw0B6hes0Cc8nw0B6udg0Cc8nw0B6hes0Cc8nw0B6hes0Cc8nw0B6hes0Cc8nw0B6hes0Cc8nw0B6udg0Cc8nw0B6hes0Cdgyc0B594c0Cc8nw0B6hes0Cc8nw0B6hes0Cc8nw0B6hes0Cc8nw0B6udg0Cc8nw0B6hes0Cc8nw0B6hes0Cc8nw0B6hes0Cc8nw0B6hes0Cc8nw0B6udg0Cc8nw0B6hes0Cc8nw0B6hes0Cc8nw0B6hes0Cc8nw0B6hes0Cc8nw0B6hes0Cc8nw0B"),
  ("America/Costa_Rica", "-336 -360 -300", "14llnbhBubtl3nC51ek0Bdoo40C51ek0B5jso40C8drw0Bacas0C2xh80B"),
  ("America/Coyhaique", "-288 -283 -300 -240 -180", "oegzrkBag6l2tC3dlssrB157b79Df4e0rB49hzb9Daye0rC7ves0Dawik0C7ves0Dawik0C7ves0Dawik0C7ves0Dayd80C7ves0D534ik0C351g0D2fnh80C2mg00Db73400E7k580Dc8tg0E6h980Da31g0E7x3w0Dasys0E7x3w0Db5xg0E7k580Dag040E8a2k0Db5xg0E7k580Db5xg0E7x3w0Dasys0E7x3w0Dasys0E7x3w0Db5xg0E7k580Db5xg0E7k580Db5xg0E7x3w0Dasys0E7x3w0Dasys0E7x3w0Dasys0E7x3w0Db5xg0E7k580Db5xg0E7k580Db5xg0E9cyk0D9d440E7x3w0Dasys0E7x3w0Db5xg0E7k580D9q2s0E8zzw0Db5xg0E7x3w0Dasys0E7x3w0Dasys0E7x3w0Dasys0E7x3w0Db5xg0E7k580Db5xg0E8n180Da31g0E7x3w0Da31g0E9px80D9q2s0E7x3w0Db5xg0E7k580Db5xg0E7k580Db5xg0E7k580Db5xg0E7x3w0Dasys0E7x3w0Dasys0E7x3w0Db5xg0E7k580Db5xg0E8n180Da31g0E7x3w0Dasys0E8zzw0D9q2s0East80D5eis0Ecyl80D6hes0Ec8nw0D6udg0Ebvp80D6udg0Evonw0D4olg0Ee1h80D4olg0Ee1h80D4olg0Ec8nw0D7x9g0East80D7x9g0East80D7x9g0East80D8a840Eafuk0D7x9g0Eb5rw0D7x9g0E"),
  ("America/Creston", "-466 -420 -480", "l9pynwBh39xv8Cvbus0B"),
  ("America/Cuiaba", "-224 -240 -180", "10xce50B99k9y4C9a9c0B9io40C99980B8p65g0C6zuo0Bbs2o0C67zw0Bcjxg0C69uk0Bcjxg0C4ml80B5mf440C49mk0Bhaas0C316k0Bcls40C4ml80Bcls40C66580Bcls40C67zw0B981s40C6u7w0Bbiw40C5rbw0Bd0lg0C5ed80Bcyqs0C5ed80Bdbpg0C64ak0Bcyqs0C64ak0Bcls40C5rbw0Bdbpg0C51ek0Bdbpg0C6h980Bc8tg0C6h980Bc8tg0C64ak0Bc8tg0C6u7w0Bbxpg0C7iak0Bbiw40C6u7w0Bbiw40C7k580Bbiw40C6u7w0Bc8tg0C6h980Bdbpg0C5ed80Bw5hg0C5nmk0Bc8tg0C6h980Bdbpg0C5rbw0Bbvus0C6h980Bcls40C64ak0Bcls40C6h980Bc8tg0C6h980Bc8tg0C6u7w0Bc8tg0C64ak0Bcls40C64ak0Bcls40C6h980Bc8tg0C6h980Bc8tg0C6h980Bc8tg0C6h980Bdbpg0C5ed80B"),
  ("America/Curacao", "-276 -270 -240", "zxwj6rBrlo7qdC"),
  ("America/Danmarkshavn", "-75 -180 -120 0", "129n37kBx8nx3kC8zrk0B9d1c0C9d1c0B9d1c0C9d1c0B9d1c0C9d1c0B9d1c0C9q000B9d1c0C9d1c0B9d1c0C9d1c0B9d1c0C9d1c0B9d1c0C9d1c0B9d1c0C9d1c0B9d1c0C9q000B9d1c0C9d1c0B9d1c0C9d1c0B9d1c0C9d1c0B9d1c0C9d1c0B9d1c0C9d1c0B53hk0D"),
  ("America/Dawson", "-558 -540 -480 -420", "ty82wkB97l62kCa2vw0Basys0C882c0Bbmiwc0C1wd180Ba7n3w0D9q000B465k00C3e2is0D9cyk0C9d440D9cyk0C9d440D9px80C905g0D9px80C9d440D9cyk0C9d440D9cyk0C9d440D9cyk0C8a840Dafuk0C8a840Dast80C7x9g0Dast80C7x9g0Dast80C8a840Dafuk0C8a840Dafuk0C8a840Dast80C7x9g0Dast80C7x9g0Dast80C8a840Dafuk0C8a840Dafuk0C8a840Dafuk0C8a840Dast80C7x9g0Dast80C7x9g0Dast80C8a840Dafuk0C8a840Dafuk0C8a840Dast80C7x9g0Dast80C7x9g0Dast80C6udg0Dc8nw0C6hes0Dc8nw0C6hes0Dc8nw0C6udg0Dc8nw0C6hes0Dc8nw0C6hes0Dc8nw0C6hes0Dc8nw0C6hes0Dc8nw0C6hes0Dc8nw0C6udg0Dc8nw0C6hes0Dc8nw0C6hes0Dc8nw0C6hes0Dc8nw0C6hes0D"),
  ("America/Dawson_Creek", "-481 -480 -420", "l9pzcoBhw36ugCa2vw0Bc5jxg0C1wd180Btj1g0C7x3w0Basys0C7x3w0Basys0C7x3w0Bb5xg0C7k580Bb5xg0C7x3w0Basys0C7x3w0Basys0C7x3w0Basys0C7x3w0Basys0C7x3w0Bb5xg0C7x3w0Basys0C7x3w0Basys0C7x3w0Basys0C7x3w0Basys0C7x3w0Bb5xg0C7k580Bb5xg0C9cyk0B9d440C9cyk0B9d440C9cyk0B9d440C9px80B905g0C9px80B9d440C9cyk0B9d440C9cyk0B9d440C9cyk0B9d440C9cyk0B9d440C9px80B9d440C"),
  ("America/Denver", "-420 -360", "1353634Bast80A7x9g0Bast80A7x9g0Bb5rw0A7kas0B2vmk0Aataw40B1wd180Aa7n9g0B9px80A905g0B9px80A9d440B9cyk0A9d440B9cyk0A9d440B9cyk0A9d440B9cyk0A9d440B9px80A9d440B9cyk0A9d440B9cyk0A3lpg0Bf4d80A64g40Bclmk0A9d440B9px80A905g0B9px80A9d440B9cyk0A9d440B9cyk0A9d440B9cyk0A9d440B9cyk0A9d440B9px80A905g0B9px80A9d440B9cyk0A9d440B9cyk0A9d440B9cyk0A8a840Bafuk0A8a840Bast80A7x9g0Bast80A7x9g0Bast80A8a840Bafuk0A8a840Bafuk0A8a840Bast80A7x9g0Bast80A7x9g0Bast80A8a840Bafuk0A8a840Bafuk0A8a840Bafuk0A8a840Bast80A7x9g0Bast80A7x9g0Bast80A8a840Bafuk0A8a840Bafuk0A8a840Bast80A7x9g0Bast80A7x9g0Bast80A6udg0Bc8nw0A6hes0Bc8nw0A6hes0Bc8nw0A6udg0Bc8nw0A6hes0Bc8nw0A6hes0Bc8nw0A6hes0Bc8nw0A6hes0Bc8nw0A6hes0Bc8nw0A6udg0Bc8nw0A6hes0Bc8nw0A6hes0Bc8nw0A6hes0Bc8nw0A6hes0Bc8nw0A6udg0Bc8nw0A6hes0Bc8nw0A6hes0Bc8nw0A6hes0Bc8nw0A6hes0Bc8nw0A6hes0Bc8nw0A6udg0Bc8nw0A6hes0Bc8nw0A6hes0Bc8nw0A6hes0Bc8nw0A6hes0Bc8nw0A6udg0Bc8nw0A6hes0Bc8nw0A6hes0Bc8nw0A6hes0Bc8nw0A6hes0Bc8nw0A6hes0Bc8nw0A"),
  ("America/Detroit", "-332 -360 -300 -240", "w89hsrB5eraudCdyeyk0D1wd180C1c9440D7x3w0C9rlbxoD71s2cC9d440D9cyk0C2cmdg0D9cyk0C3lpg0Df4d80C9d440D9cyk0C9d440D9px80C905g0D9px80C9d440D9cyk0C9d440D9cyk0C9d440D9cyk0C9d440D9cyk0C9d440D9px80C905g0D9px80C9d440D9cyk0C9d440D9cyk0C9d440D9cyk0C8a840Dafuk0C8a840Dast80C7x9g0Dast80C7x9g0Dast80C8a840Dafuk0C8a840Dafuk0C8a840Dast80C7x9g0Dast80C7x9g0Dast80C8a840Dafuk0C8a840Dafuk0C8a840Dafuk0C8a840Dast80C7x9g0Dast80C7x9g0Dast80C8a840Dafuk0C8a840Dafuk0C8a840Dast80C7x9g0Dast80C7x9g0Dast80C6udg0Dc8nw0C6hes0Dc8nw0C6hes0Dc8nw0C6udg0Dc8nw0C6hes0Dc8nw0C6hes0Dc8nw0C6hes0Dc8nw0C6hes0Dc8nw0C6hes0Dc8nw0C6udg0Dc8nw0C6hes0Dc8nw0C6hes0Dc8nw0C6hes0Dc8nw0C6hes0Dc8nw0C6udg0Dc8nw0C6hes0Dc8nw0C6hes0Dc8nw0C6hes0Dc8nw0C6hes0Dc8nw0C6hes0Dc8nw0C6udg0Dc8nw0C6hes0Dc8nw0C6hes0Dc8nw0C6hes0Dc8nw0C6hes0Dc8nw0C6udg0Dc8nw0C6hes0Dc8nw0C6hes0Dc8nw0C6hes0Dc8nw0C6hes0Dc8nw0C6hes0Dc8nw0C"),
  ("America/Dominica", "-246 -240", "zm9z64B"),
  ("America/Edmonton", "-454 -420 -360", "x3jkrkB629inkCa2vw0B8n6s0C29ek0Bh6lg0C9px80B905g0C7x3w0Bb5xg0C7k580Bb5xg0C7x3w0B9l0g40C1wd180Btj1g0C7x3w0Bctzk40C9cyk0B9d440C9cyk0B9d440C9cyk0B9d440C9cyk0B9d440C9px80B905g0C9px80B9d440C9cyk0B9d440C9cyk0B9d440C9cyk0B9d440C9cyk0B9d440C9px80B905g0C9px80B9d440C9cyk0B9d440C9cyk0B9d440C9cyk0B8a840Cafuk0B8a840Cast80B7x9g0Cast80B7x9g0Cast80B8a840Cafuk0B8a840Cafuk0B8a840Cast80B7x9g0Cast80B7x9g0Cast80B8a840Cafuk0B8a840Cafuk0B8a840Cafuk0B8a840Cast80B7x9g0Cast80B7x9g0Cast80B8a840Cafuk0B8a840Cafuk0B8a840Cast80B7x9g0Cast80B7x9g0Cast80B6udg0Cc8nw0B6hes0Cc8nw0B6hes0Cc8nw0B6udg0Cc8nw0B6hes0Cc8nw0B6hes0Cc8nw0B6hes0Cc8nw0B6hes0Cc8nw0B6hes0Cc8nw0B6udg0Cc8nw0B6hes0Cc8nw0B6hes0Cc8nw0B6hes0Cc8nw0B6hes0Cc8nw0B6udg0Cc8nw0B6hes0Cc8nw0B6hes0Cc8nw0B6hes0Cc8nw0B6hes0Cc8nw0B6hes0Cc8nw0B6udg0Cc8nw0B6hes0Cc8nw0B6hes0Cc8nw0B6hes0Cc8nw0B6hes0Cc8nw0B6udg0Cc8nw0B6hes0Cc8nw0B6hes0Cc8nw0B6hes0Cc8nw0B6hes0Cc8nw0B6hes0Cc8nw0B"),
  ("America/Eirunepe", "-279 -300 -240", "10xcgowB99ka68C9a9c0B9io40C99980B8p65g0C6zuo0Bbs2o0C67zw0Bcjxg0C69uk0Bcjxg0C4ml80B5mf440C49mk0Bhaas0C316k0Bcls40C4ml80Bcls40C66580Bcls40C67zw0B981s40C6u7w0Bbiw40C5rbw0Bd0lg0C5ed80B2yy2s0C6h980B7hg2s0C2t2t80B"),
  ("America/El_Salvador", "-357 -360 -300", "14kvqxsBymao5cC7k580Bb5xg0C7k580B"),
  ("America/Fort_Nelson", "-491 -480 -420", "l9pzt3Bhw36e1Ca2vw0Bc5jxg0C1wd180Btj1g0C7x3w0Basys0C7x3w0Basys0C7x3w0Bb5xg0C7k580Bb5xg0C7x3w0Basys0C7x3w0Basys0C7x3w0Basys0C7x3w0Basys0C7x3w0Bb5xg0C7x3w0Basys0C7x3w0Basys0C7x3w0Basys0C7x3w0Basys0C7x3w0Bb5xg0C7k580Bb5xg0C9cyk0B9d440C9cyk0B9d440C9cyk0B9d440C9px80B905g0C9px80B9d440C9cyk0B9d440C9cyk0B9d440C9cyk0B9d440C9cyk0B9d440C9px80B9d440C9cyk0B9d440C9cyk0B9d440C9cyk0B9d440C9cyk0B9d440C9px80B905g0C9px80B9d440C9cyk0B9d440C9cyk0B9d440C9cyk0B9d440C9cyk0B9d440C9px80B905g0C9px80B9d440C9cyk0B9d440C9cyk0B9d440C9cyk0B8a840Cafuk0B8a840Cast80B7x9g0Cast80B7x9g0Cast80B8a840Cafuk0B8a840Cafuk0B8a840Cast80B7x9g0Cast80B7x9g0Cast80B8a840Cafuk0B8a840Cafuk0B8a840Cafuk0B8a840Cast80B7x9g0Cast80B7x9g0Cast80B8a840Cafuk0B8a840Cafuk0B8a840Cast80B7x9g0Cast80B7x9g0Cast80B6udg0Cc8nw0B6hes0Cc8nw0B6hes0Cc8nw0B6udg0Cc8nw0B6hes0Cc8nw0B6hes0Cc8nw0B6hes0Cc8nw0B6hes0Cc8nw0B6hes0C"),
  ("America/Fortaleza", "-154 -180 -120", "10xcavsB99kafcC9a9c0B9io40C99980B8p65g0C6zuo0Bbs2o0C67zw0Bcjxg0C69uk0Bcjxg0C4ml80B5mf440C49mk0Bhaas0C316k0Bcls40C4ml80Bcls40C66580Bcls40C67zw0B981s40C6u7w0Bbiw40C5rbw0Bd0lg0C5ed80Bcyqs0C5ed80Bdbpg0C64ak0B514g40C7k580Bbiw40Cpuk0Bid6s0C6h980B"),
  ("America/Glace_Bay", "-240 -180", "135sv34Ba2vw0Ac5jxg0B1wd180A3y8g40B7x3w0A9pa5g0B9cyk0A9d440B9cyk0A9d440B9cyk0A9d440B9cyk0A9d440B9px80A905g0B9px80A9d440B9cyk0A9d440B9cyk0A9d440B9cyk0A9d440B9cyk0A9d440B9px80A905g0B9px80A9d440B9cyk0A9d440B9cyk0A9d440B9cyk0A8a840Bafuk0A8a840Bast80A7x9g0Bast80A7x9g0Bast80A8a840Bafuk0A8a840Bafuk0A8a840Bast80A7x9g0Bast80A7x9g0Bast80A8a840Bafuk0A8a840Bafuk0A8a840Bafuk0A8a840Bast80A7x9g0Bast80A7x9g0Bast80A8a840Bafuk0A8a840Bafuk0A8a840Bast80A7x9g0Bast80A7x9g0Bast80A6udg0Bc8nw0A6hes0Bc8nw0A6hes0Bc8nw0A6udg0Bc8nw0A6hes0Bc8nw0A6hes0Bc8nw0A6hes0Bc8nw0A6hes0Bc8nw0A6hes0Bc8nw0A6udg0Bc8nw0A6hes0Bc8nw0A6hes0Bc8nw0A6hes0Bc8nw0A6hes0Bc8nw0A6udg0Bc8nw0A6hes0Bc8nw0A6hes0Bc8nw0A6hes0Bc8nw0A6hes0Bc8nw0A6hes0Bc8nw0A6udg0Bc8nw0A6hes0Bc8nw0A6hes0Bc8nw0A6hes0Bc8nw0A6hes0Bc8nw0A6udg0Bc8nw0A6hes0Bc8nw0A6hes0Bc8nw0A6hes0Bc8nw0A6hes0Bc8nw0A6hes0Bc8nw0A"),
  ("America/Goose_Bay", "-242 -211 -151 -210 -150 -240 -180 -120", "l9po9wBhw35goCa2vw0B8kjbw0DkzjykE7k580Db5xg0E7k580Db5xg0E7k580Dbiw40E776k0Dbiw40E7k580Db5xg0E7k580Db5xg0E1roo40Dbiw40E7k580Db5xg0E7k580Db5xg0E7k580Db5xg0E7k580Dbiw40E7k580Dag040E7x3w0Dasys0E7x3w0Dasys0E7x3w0Dasys0E7x3w0Dasys0E7x3w0Db5xg0E7x3w0Dasys0E7x3w0Dasys0E7x3w0Dasys0E7x3w0Dasys0E9px80D9d440E9cyk0D9d440E9cyk0D9d440E9cyk0D9d440E9cyk0D9d440E9px80D6y2s0F22420G9px80F9d440G9cyk0F9d440G9cyk0F9d440G9cyk0F9d440G9cyk0F9d440G9px80F9d440G9cyk0F9d440G9cyk0F9d440G9cyk0F9d440G9cyk0F9d440G9px80F905g0G9px80F9d440G9cyk0F9d440G9cyk0F9d440G9cyk0F9d440G9cyk0F9d440G9px80F905g0G9px80F9d440G9cyk0F9d440G9cyk0F9d440G9cyk0F8a2loGafuk0F8a840Hasqg0F7xc80Gast80F7x9g0Gast80F8a840Gafuk0F8a840Gafuk0F8a840Gast80F7x9g0Gast80F7x9g0Gast80F8a840Gafuk0F8a840Gafuk0F8a840Gafuk0F8a840Gast80F7x9g0Gast80F7x9g0Gast80F8a840Gafuk0F8a840Gafuk0F8a840Gast80F7x9g0Gast80F7x9g0Gast80F6udg0Gc8nw0F6hes0Gc8nw0F6hes0Gc8nw0F6udg0Gc8nw0F6hes0Gc8tecF6hes0Gc8nw0F6hes0Gc8nw0F6hes0Gc8nw0F6hes0Gc8nw0F6udg0Gc8nw0F6hes0Gc8nw0F6hes0Gc8nw0F6hes0Gc8nw0F6hes0Gc8nw0F6udg0Gc8nw0F6hes0Gc8nw0F6hes0Gc8nw0F6hes0Gc8nw0F6hes0Gc8nw0F6hes0Gc8nw0F6udg0Gc8nw0F6hes0Gc8nw0F6hes0Gc8nw0F6hes0Gc8nw0F6hes0Gc8nw0F6udg0Gc8nw0F6hes0Gc8nw0F6hes0Gc8nw0F6hes0Gc8nw0F6hes0Gc8nw0F6hes0Gc8nw0F"),
  ("America/Grand_Turk", "-285 -307 -300 -240", "oegzlcBbiv7pqCz3brw2D9cyk0C9d440D9cyk0C9d440D9cyk0C9d440D9px80C905g0D9px80C9d440D9cyk0C9d440D9cyk0C9d440D9cyk0C8a840Dafuk0C8a840Dast80C7x9g0Dast80C7x9g0Dast80C8a840Dafuk0C8a840Dafuk0C8a840Dast80C7x9g0Dast80C7x9g0Dast80C8a840Dafuk0C8a840Dafuk0C8a840Dafuk0C8a840Dast80C7x9g0Dast80C7x9g0Dast80C8a840Dafuk0C8a840Dafuk0C8a840Dast80C7x9g0Dast80C7x9g0Dast80C6udg0Dc8nw0C6hes0Dc8nw0C6hes0Dc8nw0C6udg0Dc8nw0C6hes0Dc8nw0C6hes0Dc8nw0C6hes0Dc8nw0C6hes0Dc8nw0C6hes0D1wruk0C6hes0Dc8nw0C6hes0Dc8nw0C6udg0Dc8nw0C6hes0Dc8nw0C6hes0Dc8nw0C6hes0Dc8nw0C6hes0Dc8nw0C6hes0Dc8nw0C6udg0Dc8nw0C6hes0Dc8nw0C6hes0Dc8nw0C6hes0Dc8nw0C6hes0Dc8nw0C6udg0Dc8nw0C6hes0Dc8nw0C6hes0Dc8nw0C6hes0Dc8nw0C6hes0Dc8nw0C6hes0Dc8nw0C"),
  ("America/Grenada", "-247 -240", "zm9z6sB"),
  ("America/Guadeloupe", "-246 -240", "zl3dtcB"),
  ("America/Guatemala", "-362 -360 -300", "13er36kBss0akkC4ofw0B4tidg0C6djw0B3wwas0C8n180B7n5ms0C7x3w0B"),
  ("America/Guayaquil", "-319 -314 -300 -240", "oeh17cBle9mf4Cwb620oD3jp80C"),
  ("America/Guyana", "-233 -240 -225 -180", "znvd6vB1va8c9Cvj6nb0D8p0jd0B"),
  ("America/Halifax", "-254 -240 -180", "uwdbj4B777go0C9et80Bst9o0Ca2vw0Bssyk0C5rbw0Bcv1g0C69uk0Bc6ys0C6kyk0Bci2s0C67zw0Bci2s0C6w2k0Bbu040C7lzw0Bbu040C66580Bbu040C7lzw0Bbu040C64ak0Bcls40C5v180Bcv1g0C6j3w0Bc6ys0C79180Bb42s0C7lzw0Bb42s0C7yyk0Bbu040C64ak0Bdbpg0C66580Bcls40C5ed80Bbu040C7lzw0Bb42s0C7lzw0Bcjxg0C66580Bbh1g0C7lzw0Bb42s0C7lzw0B6uj00C1wd180Basys0C7x3w0Basys0C7x3w0Basys0C7x3w0Basys0C7x3w0Btw040C7x3w0Basys0C7x3w0Basys0C7x3w0Basys0C7x3w0Btw040C7x3w0Basys0C7x3w0Basys0C7x3w0Basys0C7x3w0B1cm2s0C9cyk0B9d440C9cyk0B9d440C9cyk0B9d440C9px80B905g0C9px80B9d440C9cyk0B9d440C9cyk0B9d440C9cyk0B9d440C9cyk0B9d440C9px80B9d440C9cyk0B9d440C9cyk0B9d440C9cyk0B9d440C9cyk0B9d440C9px80B905g0C9px80B9d440C9cyk0B9d440C9cyk0B9d440C9cyk0B9d440C9cyk0B9d440C9px80B905g0C9px80B9d440C9cyk0B9d440C9cyk0B9d440C9cyk0B8a840Cafuk0B8a840Cast80B7x9g0Cast80B7x9g0Cast80B8a840Cafuk0B8a840Cafuk0B8a840Cast80B7x9g0Cast80B7x9g0Cast80B8a840Cafuk0B8a840Cafuk0B8a840Cafuk0B8a840Cast80B7x9g0Cast80B7x9g0Cast80B8a840Cafuk0B8a840Cafuk0B8a840Cast80B7x9g0Cast80B7x9g0Cast80B6udg0Cc8nw0B6hes0Cc8nw0B6hes0Cc8nw0B6udg0Cc8nw0B6hes0Cc8nw0B6hes0Cc8nw0B6hes0Cc8nw0B6hes0Cc8nw0B6hes0Cc8nw0B6udg0Cc8nw0B6hes0Cc8nw0B6hes0Cc8nw0B6hes0Cc8nw0B6hes0Cc8nw0B6udg0Cc8nw0B6hes0Cc8nw0B6hes0Cc8nw0B6hes0Cc8nw0B6hes0Cc8nw0B6hes0Cc8nw0B6udg0Cc8nw0B6hes0Cc8nw0B6hes0Cc8nw0B6hes0Cc8nw0B6hes0Cc8nw0B6udg0Cc8nw0B6hes0Cc8nw0B6hes0Cc8nw0B6hes0Cc8nw0B6hes0Cc8nw0B6hes0Cc8nw0B"),
  ("America/Havana", "-329 -330 -300 -240", "oeh1o8Bijto08C1icfyoD69uk0C62s040D4ofw0Ce1ms0D51ek0Ce1ms0D4ofw0C1fhs40D4ofw0Ce1ms0D4ofw0C9s9k40D67zw0Ccedg0D6h980C9o840D7yyk0Cb5xg0D7k580Cbvus0D9cyk0C9d440D9cyk0C9d440D9px80C9d440D8a2k0Cag040D8bx80Cae5g0D8drw0Cacas0D9cyk0C9d440D9px80C905g0D9px80C9q2s0D7x3w0C8a840Dast80C7x9g0Dast80Casys0D7x3w0Casys0D7x3w0Casys0D7x3w0Casys0D8a2k0Cag040D8a2k0C7x9g0Dast80C7x9g0Dast80C8a840Dafuk0C8a840Dafuk0C905g0Da2vw0C905g0D9q000C902o0D9q000C902o0D9q000C902o0D9q000C902o0D9q000C9d1c0D9d1c0C9d1c0D9q000C8n400Dasw00C7x6o0Db5uo0C7x6o0Dasw00C7x6o0Dasw00C8a5c0Dafxc0C8a5c0Dafxc0C7x6o0D1cm000C6uao0Dbvs00C779c0Dbitc0C6uao0Dbvs00C779c0Dbvs00C779c0Dc8qo0C779c0Db5uo0C6hc00Dc8qo0C6hc00Dc8qo0C6hc00Dc8qo0C6uao0Dc8qo0C6hc00Dc8qo0C6hc00Dc8qo0C6hc00Dc8qo0C6hc00Dc8qo0C6uao0Dc8qo0C6hc00Dc8qo0C6hc00Dc8qo0C6hc00Dc8qo0C6hc00Dc8qo0C6hc00Dc8qo0C6uao0Dc8qo0C6hc00Dc8qo0C6hc00Dc8qo0C6hc00Dc8qo0C6hc00Dc8qo0C6uao0Dc8qo0C6hc00Dc8qo0C6hc00Dc8qo0C6hc00Dc8qo0C6hc00Dc8qo0C6hc00Dc8qo0C"),
  ("America/Hermosillo", "-444 -420 -360", "153nr74B2u5s00C1si580B8jhg0C7x3w0B9eys0C591h80Bs5qoc0Cafuk0B8a840Cafuk0B8a840Cafuk0B"),
  ("America/Indiana/Indianapolis", "-345 -360 -300 -240", "l7h9r4Bhxltk0Cast80B7x9g0Cast80Bbaw840C51ek0B6w840C1wd180Basys0C7x3w0Basys0C7x3w0Basys0C7x3w0Basys0C7x3w0Bb5xg0C7k580Bb5xg0C7x3w0Basys0C7x3w0Basys0C7x3w0Basys0C7x3w0Basys0C19q7w0Basys0C5qonw0D9cyk0C9d440D9cyk0Cihslg0Dast80C6udg0Dc8nw0C6hes0Dc8nw0C6hes0Dc8nw0C6udg0Dc8nw0C6hes0Dc8nw0C6hes0Dc8nw0C6hes0Dc8nw0C6hes0Dc8nw0C6hes0Dc8nw0C6udg0Dc8nw0C6hes0Dc8nw0C6hes0Dc8nw0C6hes0Dc8nw0C6hes0Dc8nw0C6udg0Dc8nw0C6hes0Dc8nw0C6hes0Dc8nw0C6hes0Dc8nw0C6hes0Dc8nw0C6hes0Dc8nw0C6udg0Dc8nw0C6hes0Dc8nw0C6hes0Dc8nw0C6hes0Dc8nw0C6hes0Dc8nw0C6udg0Dc8nw0C6hes0Dc8nw0C6hes0Dc8nw0C6hes0Dc8nw0C6hes0Dc8nw0C6hes0Dc8nw0C"),
  ("America/Indiana/Knox", "-346 -360 -300", "l7h9r4Bhxltk0Cast80B7x9g0Cast80Bbmtus0C1wd180Btj1g0C7x3w0Basys0C7x3w0Basys0C7x3w0Bb5xg0C7k580Bb5xg0C7x3w0Basys0C7x3w0Basys0C7x3w0Basys0C7x3w0Basys0C9px80B9d440C9cyk0B9d440C7x3w0Basys0C7x3w0Basys0C9cyk0B9d440C9px80B9d440C9cyk0B9d440Cs3180B1twas0C9cyk0B9d440C9cyk0B9d440C9cyk0B9d440C9cyk0B9d440C9px80B9d440C9cyk0B9d440C9cyk0B3lpg0Cf4d80B64g40Cclmk0B9d440C9px80B905g0C9px80B9d440C9cyk0B9d440C9cyk0B9d440C9cyk0B9d440C9cyk0B9d440C9px80B905g0C9px80B9d440C9cyk0B9d440C9cyk0B9d440C9cyk0B8a840Cafuk0B8a840Cast80B7x9g0Cast80B7x9g0Cast80B8a840C84duk0B6udg0Cc8nw0B6hes0Cc8nw0B6hes0Cc8nw0B6udg0Cc8nw0B6hes0Cc8nw0B6hes0Cc8nw0B6hes0Cc8nw0B6hes0Cc8nw0B6hes0Cc8nw0B6udg0Cc8nw0B6hes0Cc8nw0B6hes0Cc8nw0B6hes0Cc8nw0B6hes0Cc8nw0B6udg0Cc8nw0B6hes0Cc8nw0B6hes0Cc8nw0B6hes0Cc8nw0B6hes0Cc8nw0B6hes0Cc8nw0B6udg0Cc8nw0B6hes0Cc8nw0B6hes0Cc8nw0B6hes0Cc8nw0B6hes0Cc8nw0B6udg0Cc8nw0B6hes0Cc8nw0B6hes0Cc8nw0B6hes0Cc8nw0B6hes0Cc8nw0B6hes0Cc8nw0B"),
  ("America/Indiana/Marengo", "-345 -360 -300 -240", "l7h9r4Bhxltk0Cast80B7x9g0Cast80Bbmtus0C1wd180B2wsas0C7x3w0B1c9440C7x3w0Basys0C7x3w0Bb5xg0C7x3w0Basys0C7x3w0Basys0C7x3w0Basys0C7x3w0Basys0C7x3w0Bb5xg0C465h80D9cyk0C9d440D9cyk0C9d440D9px80C9d440D9cyk0C9d440D9cyk0Couis0Dclmk0Cfvt9g0Dast80C6udg0Dc8nw0C6hes0Dc8nw0C6hes0Dc8nw0C6udg0Dc8nw0C6hes0Dc8nw0C6hes0Dc8nw0C6hes0Dc8nw0C6hes0Dc8nw0C6hes0Dc8nw0C6udg0Dc8nw0C6hes0Dc8nw0C6hes0Dc8nw0C6hes0Dc8nw0C6hes0Dc8nw0C6udg0Dc8nw0C6hes0Dc8nw0C6hes0Dc8nw0C6hes0Dc8nw0C6hes0Dc8nw0C6hes0Dc8nw0C6udg0Dc8nw0C6hes0Dc8nw0C6hes0Dc8nw0C6hes0Dc8nw0C6hes0Dc8nw0C6udg0Dc8nw0C6hes0Dc8nw0C6hes0Dc8nw0C6hes0Dc8nw0C6hes0Dc8nw0C6hes0Dc8nw0C"),
  ("America/Indiana/Petersburg", "-349 -360 -300 -240", "l7h9r4Bhxltk0Cast80B7x9g0Cast80Bbmtus0C1wd180B501ek0C7kas0Bb5xg0C7x3w0Basys0C7x3w0Basys0C7x3w0Basys0C7x3w0Basys0C7x3w0Bb5xg0C9cyk0B9d440C9cyk0B9d440C9cyk0B9d440C9cyk0B9d440Csfzw0B9d440C9cyk0B9d440C9cyk0B9d440C9cyk0B9d440C9cyk0B9d440C9px80B9d440C9cyk0B9d440C9cyk0B3lpg0Cf4d80B64g40Cclmk0B9d440C9px80B905g0Cfeivw0B6udg0Cipzw0Dc8nw0C6hes0Dc8nw0C6udg0Dc8nw0C6hes0Dc8nw0C6hes0Dc8nw0C6hes0Dc8nw0C6hes0Dc8nw0C6hes0Dc8nw0C6udg0Dc8nw0C6hes0Dc8nw0C6hes0Dc8nw0C6hes0Dc8nw0C6hes0Dc8nw0C6udg0Dc8nw0C6hes0Dc8nw0C6hes0Dc8nw0C6hes0Dc8nw0C6hes0Dc8nw0C6hes0Dc8nw0C6udg0Dc8nw0C6hes0Dc8nw0C6hes0Dc8nw0C6hes0Dc8nw0C6hes0Dc8nw0C6udg0Dc8nw0C6hes0Dc8nw0C6hes0Dc8nw0C6hes0Dc8nw0C6hes0Dc8nw0C6hes0Dc8nw0C"),
  ("America/Indiana/Tell_City", "-347 -360 -300 -240", "l7h9r4Bhxltk0Cast80B7x9g0Cast80Bbmtus0C1wd180B501ek0C7kas0Bb5xg0C7x3w0Basys0C7x3w0Basys0C7x3w0Basys0C7x3w0Basys0C7x3w0Bb5xg0C9cyk0B9d440C9cyk0B9d440C9cyk0B9d440C1tw580B9d440C9cyk0B9d440D9cvs0C9d440D9cyk0Cislhg0B6udg0Cc8nw0B6hes0Cc8nw0B6hes0Cc8nw0B6udg0Cc8nw0B6hes0Cc8nw0B6hes0Cc8nw0B6hes0Cc8nw0B6hes0Cc8nw0B6hes0Cc8nw0B6udg0Cc8nw0B6hes0Cc8nw0B6hes0Cc8nw0B6hes0Cc8nw0B6hes0Cc8nw0B6udg0Cc8nw0B6hes0Cc8nw0B6hes0Cc8nw0B6hes0Cc8nw0B6hes0Cc8nw0B6hes0Cc8nw0B6udg0Cc8nw0B6hes0Cc8nw0B6hes0Cc8nw0B6hes0Cc8nw0B6hes0Cc8nw0B6udg0Cc8nw0B6hes0Cc8nw0B6hes0Cc8nw0B6hes0Cc8nw0B6hes0Cc8nw0B6hes0Cc8nw0B"),
  ("America/Indiana/Vevay", "-340 -360 -300 -240", "l7h9r4Bhxltk0Cast80B7x9g0Cast80Bbmtus0C1wd180B4gyis0C7txx80D9cyk0C9d440D9cyk0C9d440D9px80C9d440D9cyk0Chfzhg0Dast80C6udg0Dc8nw0C6hes0Dc8nw0C6hes0Dc8nw0C6udg0Dc8nw0C6hes0Dc8nw0C6hes0Dc8nw0C6hes0Dc8nw0C6hes0Dc8nw0C6hes0Dc8nw0C6udg0Dc8nw0C6hes0Dc8nw0C6hes0Dc8nw0C6hes0Dc8nw0C6hes0Dc8nw0C6udg0Dc8nw0C6hes0Dc8nw0C6hes0Dc8nw0C6hes0Dc8nw0C6hes0Dc8nw0C6hes0Dc8nw0C6udg0Dc8nw0C6hes0Dc8nw0C6hes0Dc8nw0C6hes0Dc8nw0C6hes0Dc8nw0C6udg0Dc8nw0C6hes0Dc8nw0C6hes0Dc8nw0C6hes0Dc8nw0C6hes0Dc8nw0C6hes0Dc8nw0C"),
  ("America/Indiana/Vincennes", "-350 -360 -300 -240", "l7h9r4Bhxltk0Cast80B7x9g0Cast80Bbmtus0C1wd180Basys0C7x3w0B3fidg0C7x3w0Basys0C7x3w0Bb5rw0C7kas0Bb5xg0C7x3w0Basys0C7x3w0Basys0C7x3w0Basys0C7x3w0Basys0C9px80B9d440C7k580Bb5xg0C9cyk0B9d440C9cyk0B9d440C2lz980D9cyk0C9d440D9cyk0Cislhg0B6udg0Cipzw0Dc8nw0C6hes0Dc8nw0C6udg0Dc8nw0C6hes0Dc8nw0C6hes0Dc8nw0C6hes0Dc8nw0C6hes0Dc8nw0C6hes0Dc8nw0C6udg0Dc8nw0C6hes0Dc8nw0C6hes0Dc8nw0C6hes0Dc8nw0C6hes0Dc8nw0C6udg0Dc8nw0C6hes0Dc8nw0C6hes0Dc8nw0C6hes0Dc8nw0C6hes0Dc8nw0C6hes0Dc8nw0C6udg0Dc8nw0C6hes0Dc8nw0C6hes0Dc8nw0C6hes0Dc8nw0C6hes0Dc8nw0C6udg0Dc8nw0C6hes0Dc8nw0C6hes0Dc8nw0C6hes0Dc8nw0C6hes0Dc8nw0C6hes0Dc8nw0C"),
  ("America/Indiana/Winamac", "-346 -360 -300 -240", "l7h9r4Bhxltk0Cast80B7x9g0Cast80Bbmtus0C1wd180Basys0C7x3w0Basys0C7x3w0Basys0C7x3w0Basys0C7x3w0Bb5xg0C7k580Bb5xg0C7x3w0Basys0C7x3w0Basys0C7x3w0Basys0C7x3w0Basys0C9px80B9d440C9cyk0B9d440C7x3w0Basys0C7x3w0Basys0C7x3w0Basys0C7x3w0Bb5xg0C465h80D9cyk0C9d440D9cyk0Cislhg0B6udg0Dc8l40C6hes0Dc8nw0C6hes0Dc8nw0C6udg0Dc8nw0C6hes0Dc8nw0C6hes0Dc8nw0C6hes0Dc8nw0C6hes0Dc8nw0C6hes0Dc8nw0C6udg0Dc8nw0C6hes0Dc8nw0C6hes0Dc8nw0C6hes0Dc8nw0C6hes0Dc8nw0C6udg0Dc8nw0C6hes0Dc8nw0C6hes0Dc8nw0C6hes0Dc8nw0C6hes0Dc8nw0C6hes0Dc8nw0C6udg0Dc8nw0C6hes0Dc8nw0C6hes0Dc8nw0C6hes0Dc8nw0C6hes0Dc8nw0C6udg0Dc8nw0C6hes0Dc8nw0C6hes0Dc8nw0C6hes0Dc8nw0C6hes0Dc8nw0C6hes0Dc8nw0C"),
  ("America/Inuvik", "0 -480 -420 -360", "1la3qf4Ba34zs0C9cyk0B9d440C9cyk0B9d440C9cyk0B9d440C9cyk0B9d440C9px80B905g0C9px80B9d440C9cyk0B9d440D9cvs0C9d440D9cyk0C9d440D9cyk0C9d440D9px80C905g0D9px80C9d440D9cyk0C9d440D9cyk0C9d440D9cyk0C8a840Dafuk0C8a840Dast80C7x9g0Dast80C7x9g0Dast80C8a840Dafuk0C8a840Dafuk0C8a840Dast80C7x9g0Dast80C7x9g0Dast80C8a840Dafuk0C8a840Dafuk0C8a840Dafuk0C8a840Dast80C7x9g0Dast80C7x9g0Dast80C8a840Dafuk0C8a840Dafuk0C8a840Dast80C7x9g0Dast80C7x9g0Dast80C6udg0Dc8nw0C6hes0Dc8nw0C6hes0Dc8nw0C6udg0Dc8nw0C6hes0Dc8nw0C6hes0Dc8nw0C6hes0Dc8nw0C6hes0Dc8nw0C6hes0Dc8nw0C6udg0Dc8nw0C6hes0Dc8nw0C6hes0Dc8nw0C6hes0Dc8nw0C6hes0Dc8nw0C6udg0Dc8nw0C6hes0Dc8nw0C6hes0Dc8nw0C6hes0Dc8nw0C6hes0Dc8nw0C6hes0Dc8nw0C6udg0Dc8nw0C6hes0Dc8nw0C6hes0Dc8nw0C6hes0Dc8nw0C6hes0Dc8nw0C6udg0Dc8nw0C6hes0Dc8nw0C6hes0Dc8nw0C6hes0Dc8nw0C6hes0Dc8nw0C6hes0Dc8nw0C"),
  ("America/Iqaluit", "0 -240 -300 -360", "1fubl34B1nh7c0Cdvfpg0B9cyk0C9d440B9cyk0C9d440B9cyk0C9d440B9cyk0C9d440B9px80C905g0B9px80C9d440B9cyk0C9d440B9cyk0C9d440B9cyk0C9d440B9cyk0C9d440B9px80C905g0B9px80C9d440B9cyk0C9d440B9cyk0C9d440B9cyk0C8a840Bafuk0C8a840Bast80C7x9g0Bast80C7x9g0Bast80C8a840Bafuk0C8a840Bafuk0C8a840Bast80C7x9g0Bast80C7x9g0Bast80C8a840Bafuk0C8a840Bafuk0C8a840Bafuk0C8a840Bast80D7xc80Cipzw0Bast80C8a840Bafuk0C8a840Bafuk0C8a840Bast80C7x9g0Bast80C7x9g0Bast80C6udg0Bc8nw0C6hes0Bc8nw0C6hes0Bc8nw0C6udg0Bc8nw0C6hes0Bc8nw0C6hes0Bc8nw0C6hes0Bc8nw0C6hes0Bc8nw0C6hes0Bc8nw0C6udg0Bc8nw0C6hes0Bc8nw0C6hes0Bc8nw0C6hes0Bc8nw0C6hes0Bc8nw0C6udg0Bc8nw0C6hes0Bc8nw0C6hes0Bc8nw0C6hes0Bc8nw0C6hes0Bc8nw0C6hes0Bc8nw0C6udg0Bc8nw0C6hes0Bc8nw0C6hes0Bc8nw0C6hes0Bc8nw0C6hes0Bc8nw0C6udg0Bc8nw0C6hes0Bc8nw0C6hes0Bc8nw0C6hes0Bc8nw0C6hes0Bc8nw0C6hes0Bc8nw0C"),
  ("America/Jamaica", "-307 -300 -240", "zxc7b2Bwbl182Cf4d80B64g40Cclmk0B9d440C9px80B905g0C9px80B9d440C9cyk0B9d440C9cyk0B9d440C9cyk0B9d440C9cyk0B9d440C9px80B905g0C9px80B"),
  ("America/Juneau", "902 -538 -480 -420 -540", "cta575Bh4yu44Cln707vD1wd180Ccawis0D9cyk0C9d440D9cyk0C9d440D9px80C9d440D9cyk0C9d440D9cyk0C3lpg0Df4d80C64g40Dclmk0C9d440D9px80C905g0D9px80C9d440D9cyk0C9d440D9cyk0Cs36s0D9cyk0C9d440D9px80C905g0D9px80E9d6w0C9cyk0E9d440C9cyk0E9d440C9cyk0E8a840Cafuk0E8a840Cast80E7x9g0Cast80E7x9g0Cast80E8a840Cafuk0E8a840Cafuk0E8a840Cast80E7x9g0Cast80E7x9g0Cast80E8a840Cafuk0E8a840Cafuk0E8a840Cafuk0E8a840Cast80E7x9g0Cast80E7x9g0Cast80E8a840Cafuk0E8a840Cafuk0E8a840Cast80E7x9g0Cast80E7x9g0Cast80E6udg0Cc8nw0E6hes0Cc8nw0E6hes0Cc8nw0E6udg0Cc8nw0E6hes0Cc8nw0E6hes0Cc8nw0E6hes0Cc8nw0E6hes0Cc8nw0E6hes0Cc8nw0E6udg0Cc8nw0E6hes0Cc8nw0E6hes0Cc8nw0E6hes0Cc8nw0E6hes0Cc8nw0E6udg0Cc8nw0E6hes0Cc8nw0E6hes0Cc8nw0E6hes0Cc8nw0E6hes0Cc8nw0E6hes0Cc8nw0E6udg0Cc8nw0E6hes0Cc8nw0E6hes0Cc8nw0E6hes0Cc8nw0E6hes0Cc8nw0E6udg0Cc8nw0E6hes0Cc8nw0E6hes0Cc8nw0E6hes0Cc8nw0E6hes0Cc8nw0E6hes0Cc8nw0E"),
  ("America/Kentucky/Louisville", "-343 -360 -300 -240", "l7h9r4Bhxltk0Cast80B7x9g0Cast80Bsg5g0C6bp80Ba98o40C7x3w0B6w840C1wd180Bast9oC1sw2cB21gis0C7k580Bb5xg0C7x3w0Basys0C7x3w0Basys0C7x3w0Basys0C7x3w0Basys0C7x3w0Bb5xg0C9cyk0B9d440C9cyk0B9d440C9cyk0B9d440C9cyk0B9d440C9px80B9d440C3nfek0D9cyk0C9d440D9cyk0C9d440D9cyk0C9d440D9px80C9d440D9cyk0C9d440D9cyk0Couis0Dclmk0C9d440D9px80C905g0D9px80C9d440D9cyk0C9d440D9cyk0C9d440D9cyk0C9d440D9cyk0C9d440D9px80C905g0D9px80C9d440D9cyk0C9d440D9cyk0C9d440D9cyk0C8a840Dafuk0C8a840Dast80C7x9g0Dast80C7x9g0Dast80C8a840Dafuk0C8a840Dafuk0C8a840Dast80C7x9g0Dast80C7x9g0Dast80C8a840Dafuk0C8a840Dafuk0C8a840Dafuk0C8a840Dast80C7x9g0Dast80C7x9g0Dast80C8a840Dafuk0C8a840Dafuk0C8a840Dast80C7x9g0Dast80C7x9g0Dast80C6udg0Dc8nw0C6hes0Dc8nw0C6hes0Dc8nw0C6udg0Dc8nw0C6hes0Dc8nw0C6hes0Dc8nw0C6hes0Dc8nw0C6hes0Dc8nw0C6hes0Dc8nw0C6udg0Dc8nw0C6hes0Dc8nw0C6hes0Dc8nw0C6hes0Dc8nw0C6hes0Dc8nw0C6udg0Dc8nw0C6hes0Dc8nw0C6hes0Dc8nw0C6hes0Dc8nw0C6hes0Dc8nw0C6hes0Dc8nw0C6udg0Dc8nw0C6hes0Dc8nw0C6hes0Dc8nw0C6hes0Dc8nw0C6hes0Dc8nw0C6udg0Dc8nw0C6hes0Dc8nw0C6hes0Dc8nw0C6hes0Dc8nw0C6hes0Dc8nw0C6hes0Dc8nw0C"),
  ("America/Kentucky/Monticello", "-339 -360 -300 -240", "l7h9r4Bhxltk0Cast80B7x9g0Cast80Bbmtus0C1wd180Bbs6g40C9cyk0B9d440C9cyk0B9d440C9cyk0B9d440C9px80B9d440C9cyk0B9d440C9cyk0B3lpg0Cf4d80B64g40Cclmk0B9d440C9px80B905g0C9px80B9d440C9cyk0B9d440C9cyk0B9d440C9cyk0B9d440C9cyk0B9d440C9px80B905g0C9px80B9d440C9cyk0B9d440C9cyk0B9d440C9cyk0B8a840Cafuk0B8a840Cast80B7x9g0Cast80B7x9g0Cast80B8a840Cafuk0B8a840Cafuk0B8a840Cast80B7x9g0Cast80B7x9g0Cast80B8a840Cafuk0B8a840Cafuk0B8a840Cafuk0B8a840Cast80B7x9g0Cipzw0Dast80C8a840Dafuk0C8a840Dafuk0C8a840Dast80C7x9g0Dast80C7x9g0Dast80C6udg0Dc8nw0C6hes0Dc8nw0C6hes0Dc8nw0C6udg0Dc8nw0C6hes0Dc8nw0C6hes0Dc8nw0C6hes0Dc8nw0C6hes0Dc8nw0C6hes0Dc8nw0C6udg0Dc8nw0C6hes0Dc8nw0C6hes0Dc8nw0C6hes0Dc8nw0C6hes0Dc8nw0C6udg0Dc8nw0C6hes0Dc8nw0C6hes0Dc8nw0C6hes0Dc8nw0C6hes0Dc8nw0C6hes0Dc8nw0C6udg0Dc8nw0C6hes0Dc8nw0C6hes0Dc8nw0C6hes0Dc8nw0C6hes0Dc8nw0C6udg0Dc8nw0C6hes0Dc8nw0C6hes0Dc8nw0C6hes0Dc8nw0C6hes0Dc8nw0C6hes0Dc8nw0C"),
  ("America/La_Paz", "-273 -213 -240", "1a7i31gB84ik0C"),
  ("America/Lima", "-308 -309 -300 -240", "oeh0osB9ov9coCfcxjloD4ml80C93us0D9cyk0C9d440D9cyk0Cnw16s0D4ml80Ce5c40D4ml80C1fr1g0D4ml80C1yiys0D4ml80C"),
  ("America/Los_Angeles", "-473 -480 -420", "l7hfb4Bhxltk0Cast80B7x9g0Cast80Bbmtus0C1wd180B1a3c5oCf2iicBowao0C7k800Bb5uo0C7x6o0Basw00C7x6o0Basw00C7x6o0Basw00C7x6o0Basw00C7x6o0Bb5uo0C7x6o0Basw00C7x6o0Basw00C7x6o0Basw00C7x6o0Basw00C7x6o0Bb5uo0C7k800Bb5uo0C9d1c0B9d1c0C9d1c0B9d1c0C9d1c0B9d1c0C9q000B902o0C9q000B9d440C9cyk0B9d440C9cyk0B9d440C9cyk0B9d440C9cyk0B9d440C9px80B9d440C9cyk0B9d440C9cyk0B3lpg0Cf4d80B64g40Cclmk0B9d440C9px80B905g0C9px80B9d440C9cyk0B9d440C9cyk0B9d440C9cyk0B9d440C9cyk0B9d440C9px80B905g0C9px80B9d440C9cyk0B9d440C9cyk0B9d440C9cyk0B8a840Cafuk0B8a840Cast80B7x9g0Cast80B7x9g0Cast80B8a840Cafuk0B8a840Cafuk0B8a840Cast80B7x9g0Cast80B7x9g0Cast80B8a840Cafuk0B8a840Cafuk0B8a840Cafuk0B8a840Cast80B7x9g0Cast80B7x9g0Cast80B8a840Cafuk0B8a840Cafuk0B8a840Cast80B7x9g0Cast80B7x9g0Cast80B6udg0Cc8nw0B6hes0Cc8nw0B6hes0Cc8nw0B6udg0Cc8nw0B6hes0Cc8nw0B6hes0Cc8nw0B6hes0Cc8nw0B6hes0Cc8nw0B6hes0Cc8nw0B6udg0Cc8nw0B6hes0Cc8nw0B6hes0Cc8nw0B6hes0Cc8nw0B6hes0Cc8nw0B6udg0Cc8nw0B6hes0Cc8nw0B6hes0Cc8nw0B6hes0Cc8nw0B6hes0Cc8nw0B6hes0Cc8nw0B6udg0Cc8nw0B6hes0Cc8nw0B6hes0Cc8nw0B6hes0Cc8nw0B6hes0Cc8nw0B6udg0Cc8nw0B6hes0Cc8nw0B6hes0Cc8nw0B6hes0Cc8nw0B6hes0Cc8nw0B6hes0Cc8nw0B"),
  ("America/Maceio", "-143 -180 -120", "10xcad8B99kaxwC9a9c0B9io40C99980B8p65g0C6zuo0Bbs2o0C67zw0Bcjxg0C69uk0Bcjxg0C4ml80B5mf440C49mk0Bhaas0C316k0Bcls40C4ml80Bcls40C66580Bcls40C67zw0B981s40C6u7w0Bbiw40C5rbw0Bd0lg0C5ed80Bcyqs0C5ed80Bdbpg0C64ak0B2yl440C64ak0B1wf1g0C7k580Bbiw40Cpuk0Bid6s0C6h980B"),
  ("America/Managua", "-345 -360 -300", "1bm0p2gBka1i0oCxqqk0B24p6s0C53980Bdmtg0C53980B60itw0Cdq240B53es0C235h80B4beis0C8zzw0Bat4c0C7x140B"),
  ("America/Manaus", "-240 -180", "1a6wo34B9a9c0A9io40B99980A8p65g0B6zuo0Abs2o0B67zw0Acjxg0B69uk0Acjxg0B4ml80A5mf440B49mk0Ahaas0B316k0Acls40B4ml80Acls40B66580Acls40B67zw0A981s40B6u7w0Abiw40B5rbw0Ad0lg0B5ed80A2yy2s0B6h980A"),
  ("America/Martinique", "-244 -240 -180", "zj50ecBzz5x4sC8zzw0B"),
  ("America/Matamoros", "-390 -360 -300", "153nof4Bykt480Cast80B3vppg0Cafuk0B8a840Cafuk0B8a840Cafuk0B8a840Cast80B7x9g0Cast80B9q2s0C7k580B9q2s0Cafuk0B8a840Cafuk0B8a840Cast80B7x9g0Cast80B7x9g0Cast80B7x9g0Cast80B8a840Cafuk0B8a840Cafuk0B77c40Cc8nw0B6hes0Cc8nw0B6hes0Cc8nw0B6hes0Cc8nw0B6hes0Cc8nw0B6hes0Cc8nw0B6udg0Cc8nw0B6hes0Cc8nw0B6hes0Cc8nw0B6hes0Cc8nw0B6hes0Cc8nw0B6udg0Cc8nw0B6hes0Cc8nw0B6hes0Cc8nw0B6hes0Cc8nw0B6hes0Cc8nw0B6hes0Cc8nw0B6udg0Cc8nw0B6hes0Cc8nw0B6hes0Cc8nw0B6hes0Cc8nw0B6hes0Cc8nw0B6udg0Cc8nw0B6hes0Cc8nw0B6hes0Cc8nw0B6hes0Cc8nw0B6hes0Cc8nw0B6hes0Cc8nw0B"),
  ("America/Mazatlan", "-426 -420 -360", "153nr74B2u5s00C1si580B8jhg0C7x3w0B9eys0C591h80Bs5qoc0Cafuk0B8a840Cafuk0B8a840Cafuk0B8a840Cast80B7x9g0Cast80B9q2s0C7k580B9q2s0Cafuk0B8a840Cafuk0B8a840Cast80B7x9g0Cast80B7x9g0Cast80B7x9g0Cast80B8a840Cafuk0B8a840Cafuk0B8a840Cast80B7x9g0Cast80B7x9g0Cast80B8a840Cafuk0B8a840Cafuk0B8a840Cafuk0B8a840Cast80B7x9g0Cast80B7x9g0Cast80B8a840Cafuk0B8a840Cafuk0B8a840Cast80B7x9g0Cast80B"),
  ("America/Menominee", "-350 -360 -300", "m5xzz7Bgz53bxCast80B7x9g0Cast80Bbmtus0C1wd180Basys0C7x3w0Ba7n9g0C9px80B1at9g0C2cm7w0B3lpg0Cf4d80B64g40Cclmk0B9d440C9px80B905g0C9px80B9d440C9cyk0B9d440C9cyk0B9d440C9cyk0B9d440C9cyk0B9d440C9px80B905g0C9px80B9d440C9cyk0B9d440C9cyk0B9d440C9cyk0B8a840Cafuk0B8a840Cast80B7x9g0Cast80B7x9g0Cast80B8a840Cafuk0B8a840Cafuk0B8a840Cast80B7x9g0Cast80B7x9g0Cast80B8a840Cafuk0B8a840Cafuk0B8a840Cafuk0B8a840Cast80B7x9g0Cast80B7x9g0Cast80B8a840Cafuk0B8a840Cafuk0B8a840Cast80B7x9g0Cast80B7x9g0Cast80B6udg0Cc8nw0B6hes0Cc8nw0B6hes0Cc8nw0B6udg0Cc8nw0B6hes0Cc8nw0B6hes0Cc8nw0B6hes0Cc8nw0B6hes0Cc8nw0B6hes0Cc8nw0B6udg0Cc8nw0B6hes0Cc8nw0B6hes0Cc8nw0B6hes0Cc8nw0B6hes0Cc8nw0B6udg0Cc8nw0B6hes0Cc8nw0B6hes0Cc8nw0B6hes0Cc8nw0B6hes0Cc8nw0B6hes0Cc8nw0B6udg0Cc8nw0B6hes0Cc8nw0B6hes0Cc8nw0B6hes0Cc8nw0B6hes0Cc8nw0B6udg0Cc8nw0B6hes0Cc8nw0B6hes0Cc8nw0B6hes0Cc8nw0B6hes0Cc8nw0B6hes0Cc8nw0B"),
  ("America/Merida", "-358 -360 -300", "153nof4Bvb0dk0Cfzuk0B70bes0Cafuk0B8a840Cafuk0B8a840Cafuk0B8a840Cast80B7x9g0Cast80B9q2s0C7k580B9q2s0Cafuk0B8a840Cafuk0B8a840Cast80B7x9g0Cast80B7x9g0Cast80B7x9g0Cast80B8a840Cafuk0B8a840Cafuk0B8a840Cast80B7x9g0Cast80B7x9g0Cast80B8a840Cafuk0B8a840Cafuk0B8a840Cafuk0B8a840Cast80B7x9g0Cast80B7x9g0Cast80B8a840Cafuk0B8a840Cafuk0B8a840Cast80B7x9g0Cast80B"),
  ("America/Metlakatla", "914 -526 -480 -420 -540", "cta575Bh4ytl5Cln70quD1wd180Ccawis0D9cyk0C9d440D9cyk0C9d440D9px80C9d440D9cyk0C9d440D9cyk0C3lpg0Df4d80C64g40Dclmk0C9d440D9px80C905g0D9px80C9d440D9cyk0C9d440D9cyk0C9d440D9cyk0C9d440D9cyk0C9d440D9px80C905g0D9px80Cgpc840E6udg0Cc8nw0E6hes0Cc8nw0E6hes0Cg7980E2itg0Cc8nw0E6hes0Cc8nw0E6udg0Cc8nw0E6hes0Cc8nw0E6hes0Cc8nw0E6hes0Cc8nw0E6hes0Cc8nw0E6hes0Cc8nw0E6udg0Cc8nw0E6hes0Cc8nw0E6hes0Cc8nw0E6hes0Cc8nw0E6hes0Cc8nw0E6udg0Cc8nw0E6hes0Cc8nw0E6hes0Cc8nw0E6hes0Cc8nw0E6hes0Cc8nw0E6hes0Cc8nw0E"),
  ("America/Mexico_City", "-397 -420 -360 -300", "153nr74B2u5s00C1si580B8jhg0C7x3w0B9eys0C3knek0D776k0Crf440D5t6k0C1evk40D71mk0C30p1g0D8n180Cnufxo0Dafuk0C8a840Dafuk0C8a840Dafuk0C8a840Dast80C7x9g0Dast80C9q2s0D7k580C9q2s0Dafuk0C8a840Dafuk0C8a840Dast80C7x9g0Dast80C7x9g0Dast80C7x9g0Dast80C8a840Dafuk0C8a840Dafuk0C8a840Dast80C7x9g0Dast80C7x9g0Dast80C8a840Dafuk0C8a840Dafuk0C8a840Dafuk0C8a840Dast80C7x9g0Dast80C7x9g0Dast80C8a840Dafuk0C8a840Dafuk0C8a840Dast80C7x9g0Dast80C"),
  ("America/Miquelon", "-225 -240 -180 -120", "zlgbhkBzy4wpkC3m59g0Dafuk0C8a840Dast80C7x9g0Dast80C7x9g0Dast80C8a840Dafuk0C8a840Dafuk0C8a840Dast80C7x9g0Dast80C7x9g0Dast80C8a840Dafuk0C8a840Dafuk0C8a840Dafuk0C8a840Dast80C7x9g0Dast80C7x9g0Dast80C8a840Dafuk0C8a840Dafuk0C8a840Dast80C7x9g0Dast80C7x9g0Dast80C6udg0Dc8nw0C6hes0Dc8nw0C6hes0Dc8nw0C6udg0Dc8nw0C6hes0Dc8nw0C6hes0Dc8nw0C6hes0Dc8nw0C6hes0Dc8nw0C6hes0Dc8nw0C6udg0Dc8nw0C6hes0Dc8nw0C6hes0Dc8nw0C6hes0Dc8nw0C6hes0Dc8nw0C6udg0Dc8nw0C6hes0Dc8nw0C6hes0Dc8nw0C6hes0Dc8nw0C6hes0Dc8nw0C6hes0Dc8nw0C6udg0Dc8nw0C6hes0Dc8nw0C6hes0Dc8nw0C6hes0Dc8nw0C6hes0Dc8nw0C6udg0Dc8nw0C6hes0Dc8nw0C6hes0Dc8nw0C6hes0Dc8nw0C6hes0Dc8nw0C6hes0Dc8nw0C"),
  ("America/Moncton", "-259 -300 -240 -180", "l8j3r0B9nu9w4C89fhg0Da2vw0C7mqqo0D4ofw0Ce1ms0D4ofw0Ce1ms0D4ofw0Ce1ms0D4ofw0Ce1ms0D4ofw0Ce1ms0D4ofw0Cdmtg0D64ak0Ccao40D6fek0Cbkqs0D7iak0C6y5k0D1wd180Casys0D7x3w0Casys0D7x3w0Casys0D7x3w0Casys0D7x3w0Cb5xg0D7k580Cb5xg0D7x3w0Casys0D7x3w0Casys0D7x3w0Casys0D7x3w0Casys0D7x3w0Cb5xg0D7x3w0Casys0D9cyk0C9d440D9cyk0C9d440D9cyk0C9d440D9px80C9d440D9cyk0C9d440D9cyk0C9d440D9cyk0C9d440D9cyk0C9d440D9px80C905g0D9px80C9d440D9cyk0C9d440D9cyk0C9d440D9cyk0C9d440D9cyk0C9d440D9px80C9d440D9cyk0Cs36s0D9cyk0C9d440D9cyk0C9d440D9px80C905g0D9px80C9d440D9cyk0C9d440D9cyk0C9d440D9cyk0C9d440D9cyk0C9d440D9px80C905g0D9px80C9d440D9cyk0C9d440D9cyk0C9d440D9cyk0C8a840Dafuk0C8a840Dast80C7x9g0Dast80C7x9g0Dast80C8a840Dafuk0C8a840Dafuk0C8a2loDast80C7x9g0Dast80C7x9g0Dast80C8a840Dafuk0C8a840Dafuk0C8a840Dafuk0C8a840Dast80C7x9g0Dast80C7x9g0Dast80C8a840Dafuk0C8a840Dafuk0C8a840Dast80C7x9g0Dast80C7x9g0Dast80C6uiycDc8nw0C6hes0Dc8nw0C6hes0Dc8nw0C6udg0Dc8nw0C6hes0Dc8nw0C6hes0Dc8nw0C6hes0Dc8nw0C6hes0Dc8nw0C6hes0Dc8nw0C6udg0Dc8nw0C6hes0Dc8nw0C6hes0Dc8nw0C6hes0Dc8nw0C6hes0Dc8nw0C6udg0Dc8nw0C6hes0Dc8nw0C6hes0Dc8nw0C6hes0Dc8nw0C6hes0Dc8nw0C6hes0Dc8nw0C6udg0Dc8nw0C6hes0Dc8nw0C6hes0Dc8nw0C6hes0Dc8nw0C6hes0Dc8nw0C6udg0Dc8nw0C6hes0Dc8nw0C6hes0Dc8nw0C6hes0Dc8nw0C6hes0Dc8nw0C6hes0Dc8nw0C"),
  ("America/Monterrey", "-401 -420 -360 -300", "153nof4B2u5us0C1si580B8jhg0C7x3w0B9eys0Ct89k40Dast80C3vppg0Dafuk0C8a840Dafuk0C8a840Dafuk0C8a840Dast80C7x9g0Dast80C9q2s0D7k580C9q2s0Dafuk0C8a840Dafuk0C8a840Dast80C7x9g0Dast80C7x9g0Dast80C7x9g0Dast80C8a840Dafuk0C8a840Dafuk0C8a840Dast80C7x9g0Dast80C7x9g0Dast80C8a840Dafuk0C8a840Dafuk0C8a840Dafuk0C8a840Dast80C7x9g0Dast80C7x9g0Dast80C8a840Dafuk0C8a840Dafuk0C8a840Dast80C7x9g0Dast80C"),
  ("America/Montevideo", "-225 -240 -180 -210 -150 -120 -90", "1489vhvB1s74p9C9et80D9exe0C9czy0D9exe0C9czy0D3ydyq0C7x5a0Dasxe0C7x5a0Dasxe0C7x5a0Dasxe0C7x5a0Db5w20C7k6m0Db5w20C7k6m0D9q1e0C9czy0Dasxe0C7x5a0D6do20Cppvy0E4mmm0C8g9qq0E901a0C38pe0F2inw0C2nf9g0F8zzw0C1e3s40E9o3y0Cq8he0F2kik0Cyxhg0F4bh80Cs36s0G2vl60E905g0C5rg20F51ek0Cweqs0F3yik0Ce1ms0F4ofw0Cerk40F3yik0C2vs40Fgk7w0C41iys0F3wnw0Cerk40F4bh80Cc8tg0F64ak0Cc8tg0F6u7w0Cc8tg0F6h980Cbvus0F6u7w0C614qs0F9q2s0Ca31g0F7x3w0Cag040F8a2k0Casys0F7x3w0Casys0F7x3w0Casys0F8a2k0Cag040F8a2k0Cag040F8a2k0Casys0F7x3w0Casys0F7x3w0Casys0F7x3w0C"),
  ("America/Montserrat", "-249 -240", "zm9zbkB"),
  ("America/Nassau", "-309 -300 -240", "zyvreyBfqrow6C1e5h80B1lhg0Cdbjw0B9o00c0C9cyk0B9d440C9px80B905g0C9px80B9d440C9cyk0B9d440C9cyk0B9d440C9cyk0B9d440C9cyk0B9d440C9px80B9d440C9cyk0B9d440C9cyk0B9d440C9cyk0B9d440C9cyk0B9d440C9px80B905g0C9px80B9d440C9cyk0B9d440C9cyk0B9d440C9cyk0B9d440C9cyk0B9d440C9px80B905g0C9px80B9d440C9cyk0B9d440C9cyk0B9d440C9cyk0B8a840Cafuk0B8a840Cast80B7x9g0Cast80B7x9g0Cast80B8a840Cafuk0B8a840Cafuk0B8a840Cast80B7x9g0Cast80B7x9g0Cast80B8a840Cafuk0B8a840Cafuk0B8a840Cafuk0B8a840Cast80B7x9g0Cast80B7x9g0Cast80B8a840Cafuk0B8a840Cafuk0B8a840Cast80B7x9g0Cast80B7x9g0Cast80B6udg0Cc8nw0B6hes0Cc8nw0B6hes0Cc8nw0B6udg0Cc8nw0B6hes0Cc8nw0B6hes0Cc8nw0B6hes0Cc8nw0B6hes0Cc8nw0B6hes0Cc8nw0B6udg0Cc8nw0B6hes0Cc8nw0B6hes0Cc8nw0B6hes0Cc8nw0B6hes0Cc8nw0B6udg0Cc8nw0B6hes0Cc8nw0B6hes0Cc8nw0B6hes0Cc8nw0B6hes0Cc8nw0B6hes0Cc8nw0B6udg0Cc8nw0B6hes0Cc8nw0B6hes0Cc8nw0B6hes0Cc8nw0B6hes0Cc8nw0B6udg0Cc8nw0B6hes0Cc8nw0B6hes0Cc8nw0B6hes0Cc8nw0B6hes0Cc8nw0B6hes0Cc8nw0B"),
  ("America/New_York", "-296 -300 -240", "l7h6z4Bhxltk0Cast80B7x9g0Cast80B7x9g0Cb5rw0B905g0C7x3w0Bb5xg0C7k580Bb5xg0C7x3w0Basys0C7x3w0Basys0C7x3w0Basys0C7x3w0Basys0C7x3w0Bb5xg0C7x3w0Basys0C7x3w0Basys0C7x3w0Basys0C7x3w0Basys0C7x3w0Bb5xg0C7k580Bb5xg0C7x3w0Basys0C7x3w0Basys0C7x3w0Basys0C7x3w0Basys0C7x3w0Bb5xg0C7k580Bb5xg0C7x3w0Basys0C7x3w0B6w840C1wd180Basys0C7x3w0Basys0C7x3w0Basys0C7x3w0Basys0C7x3w0Bb5xg0C7k580Bb5xg0C7x3w0Basys0C7x3w0Basys0C7x3w0Basys0C7x3w0Basys0C9px80B9d440C9cyk0B9d440C9cyk0B9d440C9cyk0B9d440C9cyk0B9d440C9px80B9d440C9cyk0B9d440C9cyk0B9d440C9cyk0B9d440C9cyk0B9d440C9px80B905g0C9px80B9d440C9cyk0B9d440C9cyk0B9d440C9cyk0B9d440C9cyk0B9d440C9px80B9d440C9cyk0B9d440C9cyk0B3lpg0Cf4d80B64g40Cclmk0B9d440C9px80B905g0C9px80B9d440C9cyk0B9d440C9cyk0B9d440C9cyk0B9d440C9cyk0B9d440C9px80B905g0C9px80B9d440C9cyk0B9d440C9cyk0B9d440C9cyk0B8a840Cafuk0B8a840Cast80B7x9g0Cast80B7x9g0Cast80B8a840Cafuk0B8a840Cafuk0B8a840Cast80B7x9g0Cast80B7x9g0Cast80B8a840Cafuk0B8a840Cafuk0B8a840Cafuk0B8a840Cast80B7x9g0Cast80B7x9g0Cast80B8a840Cafuk0B8a840Cafuk0B8a840Cast80B7x9g0Cast80B7x9g0Cast80B6udg0Cc8nw0B6hes0Cc8nw0B6hes0Cc8nw0B6udg0Cc8nw0B6hes0Cc8nw0B6hes0Cc8nw0B6hes0Cc8nw0B6hes0Cc8nw0B6hes0Cc8nw0B6udg0Cc8nw0B6hes0Cc8nw0B6hes0Cc8nw0B6hes0Cc8nw0B6hes0Cc8nw0B6udg0Cc8nw0B6hes0Cc8nw0B6hes0Cc8nw0B6hes0Cc8nw0B6hes0Cc8nw0B6hes0Cc8nw0B6udg0Cc8nw0B6hes0Cc8nw0B6hes0Cc8nw0B6hes0Cc8nw0B6hes0Cc8nw0B6udg0Cc8nw0B6hes0Cc8nw0B6hes0Cc8nw0B6hes0Cc8nw0B6hes0Cc8nw0B6hes0Cc8nw0B"),
  ("America/Nome", "778 -662 -660 -600 -540 -480", "cta575Bh4yzupCln72taD1wd180Ccawis0D9cyk0C9d440D9cyk0C9d440D9px80C9d440D9cyk0C9d440D9cyk0C3lpg0Df4d80C64g40Dclmk0C9d440D9px80C905g0D9px80C9d440D9cyk0C9d440D9cyk0C9d440D9cyk0C9d440D9cyk0C9d440D9px80C905g0D9px80E9cyk0F9cyk0E9d440F9cyk0E9d440F9cyk0E8a840Fafuk0E8a840Fast80E7x9g0Fast80E7x9g0Fast80E8a840Fafuk0E8a840Fafuk0E8a840Fast80E7x9g0Fast80E7x9g0Fast80E8a840Fafuk0E8a840Fafuk0E8a840Fafuk0E8a840Fast80E7x9g0Fast80E7x9g0Fast80E8a840Fafuk0E8a840Fafuk0E8a840Fast80E7x9g0Fast80E7x9g0Fast80E6udg0Fc8nw0E6hes0Fc8nw0E6hes0Fc8nw0E6udg0Fc8nw0E6hes0Fc8nw0E6hes0Fc8nw0E6hes0Fc8nw0E6hes0Fc8nw0E6hes0Fc8nw0E6udg0Fc8nw0E6hes0Fc8nw0E6hes0Fc8nw0E6hes0Fc8nw0E6hes0Fc8nw0E6udg0Fc8nw0E6hes0Fc8nw0E6hes0Fc8nw0E6hes0Fc8nw0E6hes0Fc8nw0E6hes0Fc8nw0E6udg0Fc8nw0E6hes0Fc8nw0E6hes0Fc8nw0E6hes0Fc8nw0E6hes0Fc8nw0E6udg0Fc8nw0E6hes0Fc8nw0E6hes0Fc8nw0E6hes0Fc8nw0E6hes0Fc8nw0E6hes0Fc8nw0E"),
  ("America/Noronha", "-130 -120 -60", "10xc9r8B99k8rwC9a9c0B9io40C99980B8p65g0C6zuo0Bbs2o0C67zw0Bcjxg0C69uk0Bcjxg0C4ml80B5mf440C49mk0Bhaas0C316k0Bcls40C4ml80Bcls40C66580Bcls40C67zw0B981s40C6u7w0Bbiw40C5rbw0Bd0lg0C5ed80Bcyqs0C5ed80Bdbpg0C64ak0B514g40C7k580Bbiw40Ccvw0Biq5g0C6h980B"),
  ("America/North_Dakota/Beulah", "-407 -420 -360 -300", "l7hcj4Bhxltk0Cast80B7x9g0Cast80Bbmtus0C1wd180Bb9gdg0C9cyk0B9d440C9cyk0B9d440C9cyk0B9d440C9cyk0B9d440C9px80B9d440C9cyk0B9d440C9cyk0B3lpg0Cf4d80B64g40Cclmk0B9d440C9px80B905g0C9px80B9d440C9cyk0B9d440C9cyk0B9d440C9cyk0B9d440C9cyk0B9d440C9px80B905g0C9px80B9d440C9cyk0B9d440C9cyk0B9d440C9cyk0B8a840Cafuk0B8a840Cast80B7x9g0Cast80B7x9g0Cast80B8a840Cafuk0B8a840Cafuk0B8a840Cast80B7x9g0Cast80B7x9g0Cast80B8a840Cafuk0B8a840Cafuk0B8a840Cafuk0B8a840Cast80B7x9g0Cast80B7x9g0Cast80B8a840Cafuk0B8a840Cafuk0B8a840Cast80B7x9g0Cast80B7x9g0Cast80B6udg0Cc8nw0B6hes0Cc8nw0B6hes0Cc8nw0B6udg0Cipzw0Dc8nw0C6hes0Dc8nw0C6hes0Dc8nw0C6hes0Dc8nw0C6hes0Dc8nw0C6udg0Dc8nw0C6hes0Dc8nw0C6hes0Dc8nw0C6hes0Dc8nw0C6hes0Dc8nw0C6udg0Dc8nw0C6hes0Dc8nw0C6hes0Dc8nw0C6hes0Dc8nw0C6hes0Dc8nw0C6hes0Dc8nw0C6udg0Dc8nw0C6hes0Dc8nw0C6hes0Dc8nw0C6hes0Dc8nw0C6hes0Dc8nw0C6udg0Dc8nw0C6hes0Dc8nw0C6hes0Dc8nw0C6hes0Dc8nw0C6hes0Dc8nw0C6hes0Dc8nw0C"),
  ("America/North_Dakota/Center", "-405 -420 -360 -300", "l7hcj4Bhxltk0Cast80B7x9g0Cast80Bbmtus0C1wd180Bb9gdg0C9cyk0B9d440C9cyk0B9d440C9cyk0B9d440C9cyk0B9d440C9px80B9d440C9cyk0B9d440C9cyk0B3lpg0Cf4d80B64g40Cclmk0B9d440C9px80B905g0C9px80B9d440C9cyk0B9d440C9cyk0B9d440C9cyk0B9d440C9cyk0B9d440C9px80B905g0C9px80B9d440C9cyk0B9d440C9cyk0B9d440C9cyk0B8a840Cafuk0B8a840Cast80B7x9g0Cast80B7x9g0Cast80B8a840Cafuk0B8a840Cipzw0Dast80C7x9g0Dast80C7x9g0Dast80C8a840Dafuk0C8a840Dafuk0C8a840Dafuk0C8a840Dast80C7x9g0Dast80C7x9g0Dast80C8a840Dafuk0C8a840Dafuk0C8a840Dast80C7x9g0Dast80C7x9g0Dast80C6udg0Dc8nw0C6hes0Dc8nw0C6hes0Dc8nw0C6udg0Dc8nw0C6hes0Dc8nw0C6hes0Dc8nw0C6hes0Dc8nw0C6hes0Dc8nw0C6hes0Dc8nw0C6udg0Dc8nw0C6hes0Dc8nw0C6hes0Dc8nw0C6hes0Dc8nw0C6hes0Dc8nw0C6udg0Dc8nw0C6hes0Dc8nw0C6hes0Dc8nw0C6hes0Dc8nw0C6hes0Dc8nw0C6hes0Dc8nw0C6udg0Dc8nw0C6hes0Dc8nw0C6hes0Dc8nw0C6hes0Dc8nw0C6hes0Dc8nw0C6udg0Dc8nw0C6hes0Dc8nw0C6hes0Dc8nw0C6hes0Dc8nw0C6hes0Dc8nw0C6hes0Dc8nw0C"),
  ("America/North_Dakota/New_Salem", "-406 -420 -360 -300", "l7hcj4Bhxltk0Cast80B7x9g0Cast80Bbmtus0C1wd180Bb9gdg0C9cyk0B9d440C9cyk0B9d440C9cyk0B9d440C9cyk0B9d440C9px80B9d440C9cyk0B9d440C9cyk0B3lpg0Cf4d80B64g40Cclmk0B9d440C9px80B905g0C9px80B9d440C9cyk0B9d440C9cyk0B9d440C9cyk0B9d440C9cyk0B9d440C9px80B905g0C9px80B9d440C9cyk0B9d440C9cyk0B9d440C9cyk0B8a840Cafuk0B8a840Cast80B7x9g0Cast80B7x9g0Cast80B8a840Cafuk0B8a840Cafuk0B8a840Cast80B7x9g0Cast80B7x9g0Cast80B8a840Cafuk0B8a840Cafuk0B8a840Cafuk0B8a840Cast80B7x9g0Cast80B7x9g0Cast80B8a840Cafuk0B8a840Cipzw0Dast80C7x9g0Dast80C7x9g0Dast80C6udg0Dc8nw0C6hes0Dc8nw0C6hes0Dc8nw0C6udg0Dc8nw0C6hes0Dc8nw0C6hes0Dc8nw0C6hes0Dc8nw0C6hes0Dc8nw0C6hes0Dc8nw0C6udg0Dc8nw0C6hes0Dc8nw0C6hes0Dc8nw0C6hes0Dc8nw0C6hes0Dc8nw0C6udg0Dc8nw0C6hes0Dc8nw0C6hes0Dc8nw0C6hes0Dc8nw0C6hes0Dc8nw0C6hes0Dc8nw0C6udg0Dc8nw0C6hes0Dc8nw0C6hes0Dc8nw0C6hes0Dc8nw0C6hes0Dc8nw0C6udg0Dc8nw0C6hes0Dc8nw0C6hes0Dc8nw0C6hes0Dc8nw0C6hes0Dc8nw0C6hes0Dc8nw0C"),
  ("America/Nuuk", "-207 -180 -120 -60", "129n9c0Bx8nqz4C8zrk0B9d1c0C9d1c0B9d1c0C9d1c0B9d1c0C9d1c0B9d1c0C9q000B9d1c0C9d1c0B9d1c0C9d1c0B9d1c0C9d1c0B9d1c0C9d1c0B9d1c0C9d1c0B9d1c0C9q000B9d1c0C9d1c0B9d1c0C9d1c0B9d1c0C9d1c0B9d1c0C9d1c0B9d1c0C9d1c0B9q000Casw00B7x6o0Casw00B7x6o0Casw00B7x6o0Cb5uo0B7k800Cb5uo0B7k800Cb5uo0B7x6o0Casw00B7x6o0Casw00B7x6o0Cb5uo0B7k800Cb5uo0B7k800Cb5uo0B7k800Cb5uo0B7x6o0Casw00B7x6o0Casw00B7x6o0Cb5uo0B7k800Cb5uo0B7k800Cb5uo0B7x6o0Casw00B7x6o0Casw00B7x6o0Casw00B7x6o0Cb5uo0B7k800Cb5uo0B7k800Cb5uo0B7x6o0Casw00B7x6o0Casw00B7x6o0Cb5uo0B7k800Cb5uo0B7k800Cj31c0Dasw00C7x6o0Dasw00C7x6o0Dasw00C7x6o0Db5uo0C7k800Db5uo0C7k800Db5uo0C7x6o0Dasw00C7x6o0Dasw00C7x6o0Db5uo0C7k800Db5uo0C7k800Db5uo0C7k800Db5uo0C7x6o0Dasw00C7x6o0Dasw00C"),
  ("America/Ojinaga", "-418 -420 -360 -300", "153nr74B2u5s00C1si580B8jhg0C7x3w0B9eys0Cxes2s0Dafuk0C8a840Dafuk0Ciq5g0B8a840Cast80B7x9g0Cast80B9q2s0C7k580B9q2s0Cafuk0B8a840Cafuk0B8a840Cast80B7x9g0Cast80B7x9g0Cast80B7x9g0Cast80B8a840Cafuk0B8a840Cafuk0B77c40Cc8nw0B6hes0Cc8nw0B6hes0Cc8nw0B6hes0Cc8nw0B6hes0Cc8nw0B6hes0Cc8nw0B6udg0Cc8nw0B6hes0Cc8nw0B6hes0Cc8nw0B6hes0Cc8nw0B6hes0Cc8nw0B6udg0Cc8nw0B6hes0Cipzw0Dc8nw0C6hes0Dc8nw0C6hes0Dc8nw0C6hes0Dc8nw0C6udg0Dc8nw0C6hes0Dc8nw0C6hes0Dc8nw0C6hes0Dc8nw0C6hes0Dc8nw0C6udg0Dc8nw0C6hes0Dc8nw0C6hes0Dc8nw0C6hes0Dc8nw0C6hes0Dc8nw0C6hes0Dc8nw0C"),
  ("America/Panama", "-318 -320 -300", "oeh15cB9jvmqgC"),
  ("America/Paramaribo", "-221 -210 -180", "1hhugmsBkcrm6cC"),
  ("America/Phoenix", "-448 -420 -360", "l7hcj4Bhxltk0Cast80B7x9g0Cast80Bbmtus0CzjedoB4olg0C9et80Bbs6lmcC9cyk0B"),
  ("America/Port-au-Prince", "-289 -300 -240", "12ixmgsBylcf6cC8zzw0B9d440C9cyk0B9d440C9cyk0B9d440C9cyk0B9d440C9cyk0B8aaw0Casw00B7x6o0Casw00B7x6o0Casw00B8a5c0Cafxc0B8a5c0Cafxc0B8a5c0Casw00B7x6o0Casw00B7x6o0Casw00B8a5c0Cafxc0B8a5c0Cafxc0B3vpjw0Cast80B7x9g0Cast80B2stv00Cc8nw0B6hes0Cc8nw0B6hes0Cc8nw0B6hes0Cc8nw0Bpkg40Cc8nw0B6hes0Cc8nw0B6hes0Cc8nw0B6hes0Cc8nw0B6udg0Cc8nw0B6hes0Cc8nw0B6hes0Cc8nw0B6hes0Cc8nw0B6hes0Cc8nw0B6hes0Cc8nw0B6udg0Cc8nw0B6hes0Cc8nw0B6hes0Cc8nw0B6hes0Cc8nw0B6hes0Cc8nw0B6udg0Cc8nw0B6hes0Cc8nw0B6hes0Cc8nw0B6hes0Cc8nw0B6hes0Cc8nw0B6hes0Cc8nw0B"),
  ("America/Port_of_Spain", "-246 -240", "zyvoh8B"),
  ("America/Porto_Velho", "-256 -240 -180", "10xcfl4B99k8i0C9a9c0B9io40C99980B8p65g0C6zuo0Bbs2o0C67zw0Bcjxg0C69uk0Bcjxg0C4ml80B5mf440C49mk0Bhaas0C316k0Bcls40C4ml80Bcls40C66580Bcls40C67zw0B981s40C6u7w0Bbiw40C5rbw0Bd0lg0C5ed80B"),
  ("America/Puerto_Rico", "-264 -240 -180", "t806ntBmhp1jbC1s3hg0B"),
  ("America/Punta_Arenas", "-284 -283 -300 -240 -180", "oegzjwBag6lahC3dlssrB157b79Df4e0rB49hzb9Daye0rC7ves0Dawik0C7ves0Dawik0C7ves0Dawik0C7ves0Dayd80C7ves0D534ik0C351g0D2fnh80C2mg00Db73400E7k580Dc8tg0E6h980Da31g0E7x3w0Dasys0E7x3w0Db5xg0E7k580Dag040E8a2k0Db5xg0E7k580Db5xg0E7x3w0Dasys0E7x3w0Dasys0E7x3w0Db5xg0E7k580Db5xg0E7k580Db5xg0E7x3w0Dasys0E7x3w0Dasys0E7x3w0Dasys0E7x3w0Db5xg0E7k580Db5xg0E7k580Db5xg0E9cyk0D9d440E7x3w0Dasys0E7x3w0Db5xg0E7k580D9q2s0E8zzw0Db5xg0E7x3w0Dasys0E7x3w0Dasys0E7x3w0Dasys0E7x3w0Db5xg0E7k580Db5xg0E8n180Da31g0E7x3w0Da31g0E9px80D9q2s0E7x3w0Db5xg0E7k580Db5xg0E7k580Db5xg0E7k580Db5xg0E7x3w0Dasys0E7x3w0Dasys0E7x3w0Db5xg0E7k580Db5xg0E8n180Da31g0E7x3w0Dasys0E8zzw0D9q2s0East80D5eis0Ecyl80D6hes0Ec8nw0D6udg0Ebvp80D6udg0Evonw0D4olg0E"),
  ("America/Rankin_Inlet", "0 -360 -300", "1nd9af4B7zza80C9cyk0B9d440C9cyk0B9d440C9cyk0B9d440C9cyk0B9d440C9px80B905g0C9px80B9d440C9cyk0B9d440C9cyk0B9d440C9cyk0B9d440C9cyk0B9d440C9px80B905g0C9px80B9d440C9cyk0B9d440C9cyk0B9d440C9cyk0B8a840Cafuk0B8a840Cast80B7x9g0Cast80B7x9g0Cast80B8a840Cafuk0B8a840Cafuk0B8a840Cast80B7x9g0Cast80B7x9g0Cast80B8a840Cafuk0B8a840Cafuk0B8a840Cafuk0B8a840Cast80B7x9g0Ctivw0B8a840Cafuk0B8a840Cafuk0B8a840Cast80B7x9g0Cast80B7x9g0Cast80B6udg0Cc8nw0B6hes0Cc8nw0B6hes0Cc8nw0B6udg0Cc8nw0B6hes0Cc8nw0B6hes0Cc8nw0B6hes0Cc8nw0B6hes0Cc8nw0B6hes0Cc8nw0B6udg0Cc8nw0B6hes0Cc8nw0B6hes0Cc8nw0B6hes0Cc8nw0B6hes0Cc8nw0B6udg0Cc8nw0B6hes0Cc8nw0B6hes0Cc8nw0B6hes0Cc8nw0B6hes0Cc8nw0B6hes0Cc8nw0B6udg0Cc8nw0B6hes0Cc8nw0B6hes0Cc8nw0B6hes0Cc8nw0B6hes0Cc8nw0B6udg0Cc8nw0B6hes0Cc8nw0B6hes0Cc8nw0B6hes0Cc8nw0B6hes0Cc8nw0B6hes0Cc8nw0B"),
  ("America/Recife", "-140 -180 -120", "10xca7sB99kb3cC9a9c0B9io40C99980B8p65g0C6zuo0Bbs2o0C67zw0Bcjxg0C69uk0Bcjxg0C4ml80B5mf440C49mk0Bhaas0C316k0Bcls40C4ml80Bcls40C66580Bcls40C67zw0B981s40C6u7w0Bbiw40C5rbw0Bd0lg0C5ed80Bcyqs0C5ed80Bdbpg0C64ak0B514g40C7k580Bbiw40Ccvw0Biq5g0C6h980B"),
  ("America/Regina", "-419 -420 -360", "wkrlssB6l1hmcCa2vw0B60enw0C7x3w0Basys0C7x3w0Basys0C7x3w0Bb5xg0C7k580Bb5xg0C7x3w0B1b6840C9cyk0B9d440C8zzw0B9q2s0C9cyk0B9q2s0C9cyk0B9d440C9cyk0B66gc0C1wd180Ba31g0C9cyk0Ba31g0C7x3w0Basys0C7x3w0Basys0C7x3w0Bb5xg0C7k580Bb5xg0C7x3w0Basys0C7x3w0Basys0C7x3w0Basys0C7x3w0Basys0C7x3w0Bb5xg0C7x3w0Basys0C7x3w0Btj1g0C9cyk0B9d440C"),
  ("America/Resolute", "0 -360 -300", "1ihsmf4Bcvfy80C9cyk0B9d440C9cyk0B9d440C9cyk0B9d440C9cyk0B9d440C9px80B905g0C9px80B9d440C9cyk0B9d440C9cyk0B9d440C9cyk0B9d440C9cyk0B9d440C9px80B905g0C9px80B9d440C9cyk0B9d440C9cyk0B9d440C9cyk0B8a840Cafuk0B8a840Cast80B7x9g0Cast80B7x9g0Cast80B8a840Cafuk0B8a840Cafuk0B8a840Cast80B7x9g0Cast80B7x9g0Cast80B8a840Cafuk0B8a840Cafuk0B8a840Cafuk0B8a840Cast80B7x9g0Ctivw0B8a840Cafuk0B8a840Cafuk0B8a840Cast80B7x9g0Cast80B7x9g0Ctvuk0B6hes0Cc8nw0B6hes0Cc8nw0B6udg0Cc8nw0B6hes0Cc8nw0B6hes0Cc8nw0B6hes0Cc8nw0B6hes0Cc8nw0B6hes0Cc8nw0B6udg0Cc8nw0B6hes0Cc8nw0B6hes0Cc8nw0B6hes0Cc8nw0B6hes0Cc8nw0B6udg0Cc8nw0B6hes0Cc8nw0B6hes0Cc8nw0B6hes0Cc8nw0B6hes0Cc8nw0B6hes0Cc8nw0B6udg0Cc8nw0B6hes0Cc8nw0B6hes0Cc8nw0B6hes0Cc8nw0B6hes0Cc8nw0B6udg0Cc8nw0B6hes0Cc8nw0B6hes0Cc8nw0B6hes0Cc8nw0B6hes0Cc8nw0B6hes0Cc8nw0B"),
  ("America/Rio_Branco", "-271 -300 -240", "10xcgb4B99kak0C9a9c0B9io40C99980B8p65g0C6zuo0Bbs2o0C67zw0Bcjxg0C69uk0Bcjxg0C4ml80B5mf440C49mk0Bhaas0C316k0Bcls40C4ml80Bcls40C66580Bcls40C67zw0B981s40C6u7w0Bbiw40C5rbw0Bd0lg0C5ed80Bamves0C2t2t80B"),
  ("America/Santarem", "-219 -240 -180", "10xcdvsB99ka7cC9a9c0B9io40C99980B8p65g0C6zuo0Bbs2o0C67zw0Bcjxg0C69uk0Bcjxg0C4ml80B5mf440C49mk0Bhaas0C316k0Bcls40C4ml80Bcls40C66580Bcls40C67zw0B981s40C6u7w0Bbiw40C5rbw0Bd0lg0C5ed80Bamves0C"),
  ("America/Santiago", "-283 -300 -240 -180", "yunkudB3dlssrA157b79Cf4e0rA49hzb9Caye0rB7ves0Cawik0B7ves0Cawik0B7ves0Cawik0B7ves0Cayd80B7ves0C534ik0B351g0C229zw0D2b980Cb2840B2mg00Cb73400D7k580Cc8tg0D6h980Ca31g0D7x3w0Casys0D7x3w0Cb5xg0D7k580Cag040D8a2k0Cb5xg0D7k580Cb5xg0D7x3w0Casys0D7x3w0Casys0D7x3w0Cb5xg0D7k580Cb5xg0D7k580Cb5xg0D7x3w0Casys0D7x3w0Casys0D7x3w0Casys0D7x3w0Cb5xg0D7k580Cb5xg0D7k580Cb5xg0D9cyk0C9d440D7x3w0Casys0D7x3w0Cb5xg0D7k580C9q2s0D8zzw0Cb5xg0D7x3w0Casys0D7x3w0Casys0D7x3w0Casys0D7x3w0Cb5xg0D7k580Cb5xg0D8n180Ca31g0D7x3w0Ca31g0D9px80C9q2s0D7x3w0Cb5xg0D7k580Cb5xg0D7k580Cb5xg0D7k580Cb5xg0D7x3w0Casys0D7x3w0Casys0D7x3w0Cb5xg0D7k580Cb5xg0D8n180Ca31g0D7x3w0Casys0D8zzw0C9q2s0Dast80C5eis0Dcyl80C6hes0Dc8nw0C6udg0Dbvp80C6udg0Dvonw0C4olg0De1h80C4olg0De1h80C4olg0Dc8nw0C7x9g0Dast80C7x9g0Dast80C7x9g0Dast80C8a840Dafuk0C7x9g0Db5rw0C7x9g0Dast80C7x9g0Dast80C7x9g0Dast80C7x9g0Dast80C7x9g0Db5rw0C7kas0Db5rw0C7x9g0Dast80C7x9g0Dast80C7x9g0Dast80C7x9g0Dast80C7x9g0Db5rw0C7kas0Db5rw0C7x9g0Dast80C7x9g0D"),
  ("America/Santo_Domingo", "-280 -300 -240 -270", "1ayzwpsBhiw29cC67zw0B1dy840D62ha0Bcnle0D4h2m0Belyq0D47ta0Bei9e0D4bim0Beek20D4dda0Becpe0Cdkmtg0B1stc0C"),
  ("America/Sao_Paulo", "-186 -180 -120", "10xccdwB99k8x8C9a9c0B9io40C99980B8p65g0C6zuo0Bbs2o0C67zw0Bcjxg0C69uk0Bcjxg0C4ml80B5k02s0C6onw0Bhaas0C316k0Bcls40C4ml80Bcls40C66580Bcls40C67zw0B981s40C6u7w0Bbiw40C5rbw0Bd0lg0C5ed80Bcyqs0C5ed80Bdbpg0C64ak0Bcyqs0C64ak0Bcls40C5rbw0Bdbpg0C51ek0Bdbpg0C6h980Bc8tg0C6h980Bc8tg0C64ak0Bc8tg0C6u7w0Bbxpg0C7iak0Bbiw40C6u7w0Bbiw40C7k580Bbiw40C6u7w0Bc8tg0C6h980Bdbpg0C5ed80Bcls40C64ak0Bdfes0C5nmk0Bc8tg0C6h980Bdbpg0C5rbw0Bbvus0C6h980Bcls40C64ak0Bcls40C6h980Bc8tg0C6h980Bc8tg0C6u7w0Bc8tg0C64ak0Bcls40C64ak0Bcls40C6h980Bc8tg0C6h980Bc8tg0C6h980Bc8tg0C6h980Bdbpg0C5ed80B"),
  ("America/Scoresbysund", "-88 -120 -60 0", "129n3tkBx8ntpkC902o0B9cvs0D9cyk0C9d1c0D9d1c0C9d1c0D9d1c0C9d1c0D9q000C9d1c0D9d1c0C9d1c0D9d1c0C9d1c0D9d1c0C9d1c0D9d1c0C9d1c0D9d1c0C9d1c0D9q000C9d1c0D9d1c0C9d1c0D9d1c0C9d1c0D9d1c0C9d1c0D9d1c0C9d1c0D9d1c0C9q000Dasw00C7x6o0Dasw00C7x6o0Dasw00C7x6o0Db5uo0C7k800Db5uo0C7k800Db5uo0C7x6o0Dasw00C7x6o0Dasw00C7x6o0Db5uo0C7k800Db5uo0C7k800Db5uo0C7k800Db5uo0C7x6o0Dasw00C7x6o0Dasw00C7x6o0Db5uo0C7k800Db5uo0C7k800Db5uo0C7x6o0Dasw00C7x6o0Dasw00C7x6o0Dasw00C7x6o0Db5uo0C7k800Db5uo0C7k800Db5uo0C7x6o0Dasw00C7x6o0Dasw00C7x6o0Db5uo0C7k800Db5uo0C7k800Db5uo0Ciq2o0B7x6o0Casw00B7x6o0Casw00B7x6o0Cb5uo0B7k800Cb5uo0B7k800Cb5uo0B7x6o0Casw00B7x6o0Casw00B7x6o0Cb5uo0B7k800Cb5uo0B7k800Cb5uo0B7k800Cb5uo0B7x6o0Casw00B7x6o0Casw00B"),
  ("America/Sitka", "899 -541 -480 -420 -540", "cta575Bh4yua0Cln701zD1wd180Ccawis0D9cyk0C9d440D9cyk0C9d440D9px80C9d440D9cyk0C9d440D9cyk0C3lpg0Df4d80C64g40Dclmk0C9d440D9px80C905g0D9px80C9d440D9cyk0C9d440D9cyk0C9d440D9cyk0C9d440D9cyk0C9d440D9px80C905g0D9px80E9d6w0C9cyk0E9d440C9cyk0E9d440C9cyk0E8a840Cafuk0E8a840Cast80E7x9g0Cast80E7x9g0Cast80E8a840Cafuk0E8a840Cafuk0E8a840Cast80E7x9g0Cast80E7x9g0Cast80E8a840Cafuk0E8a840Cafuk0E8a840Cafuk0E8a840Cast80E7x9g0Cast80E7x9g0Cast80E8a840Cafuk0E8a840Cafuk0E8a840Cast80E7x9g0Cast80E7x9g0Cast80E6udg0Cc8nw0E6hes0Cc8nw0E6hes0Cc8nw0E6udg0Cc8nw0E6hes0Cc8nw0E6hes0Cc8nw0E6hes0Cc8nw0E6hes0Cc8nw0E6hes0Cc8nw0E6udg0Cc8nw0E6hes0Cc8nw0E6hes0Cc8nw0E6hes0Cc8nw0E6hes0Cc8nw0E6udg0Cc8nw0E6hes0Cc8nw0E6hes0Cc8nw0E6hes0Cc8nw0E6hes0Cc8nw0E6hes0Cc8nw0E6udg0Cc8nw0E6hes0Cc8nw0E6hes0Cc8nw0E6hes0Cc8nw0E6hes0Cc8nw0E6udg0Cc8nw0E6hes0Cc8nw0E6hes0Cc8nw0E6hes0Cc8nw0E6hes0Cc8nw0E6hes0Cc8nw0E"),
  ("America/St_Johns", "-211 -151 -210 -150 -90", "12mpsekB8bx80Aar440Ba2vw0A9tjs0B53980Adkys0B9cyk0A9d440B9cyk0A9q2s0B8zzw0A9q2s0B8zzw0A9q2s0B8zzw0A9q2s0B8zzw0A9q2s0B9cyk0A9d440B9cyk0A9q2s0B8zzw0A9q2s0B8zzw0A9q2s0B8zzw0A9q2s0B8zzw0A9q2s0B9cyk0A9q2s0B8zzw0A9q2s0B8zzw0A7tmw0C1wfukD8zzw0Ca3480D7k580Cb5xg0D7k580Cb5xg0D7k580Cbiw40D776k0Cbiw40D7k580Cb5xg0D7k580Cb5xg0D1roo40Cbiw40D7k580Cb5xg0D7k580Cb5xg0D7k580Cb5xg0D7k580Cbiw40D7k580Cag040D7x3w0Casys0D7x3w0Casys0D7x3w0Casys0D7x3w0Casys0D7x3w0Cb5xg0D7x3w0Casys0D7x3w0Casys0D7x3w0Casys0D7x3w0Casys0D9px80C9d440D9cyk0C9d440D9cyk0C9d440D9cyk0C9d440D9cyk0C9d440D9px80C905g0D9px80C9d440D9cyk0C9d440D9cyk0C9d440D9cyk0C9d440D9cyk0C9d440D9px80C9d440D9cyk0C9d440D9cyk0C9d440D9cyk0C9d440D9cyk0C9d440D9px80C905g0D9px80C9d440D9cyk0C9d440D9cyk0C9d440D9cyk0C9d440D9cyk0C9d440D9px80C905g0D9px80C9d440D9cyk0C9d440D9cyk0C9d440D9cyk0C8a2loDafuk0C8a840Easqg0C7xc80Dast80C7x9g0Dast80C8a840Dafuk0C8a840Dafuk0C8a840Dast80C7x9g0Dast80C7x9g0Dast80C8a840Dafuk0C8a840Dafuk0C8a840Dafuk0C8a840Dast80C7x9g0Dast80C7x9g0Dast80C8a840Dafuk0C8a840Dafuk0C8a840Dast80C7x9g0Dast80C7x9g0Dast80C6udg0Dc8nw0C6hes0Dc8nw0C6hes0Dc8nw0C6udg0Dc8nw0C6hes0Dc8tecC6hes0Dc8nw0C6hes0Dc8nw0C6hes0Dc8nw0C6hes0Dc8nw0C6udg0Dc8nw0C6hes0Dc8nw0C6hes0Dc8nw0C6hes0Dc8nw0C6hes0Dc8nw0C6udg0Dc8nw0C6hes0Dc8nw0C6hes0Dc8nw0C6hes0Dc8nw0C6hes0Dc8nw0C6hes0Dc8nw0C6udg0Dc8nw0C6hes0Dc8nw0C6hes0Dc8nw0C6hes0Dc8nw0C6hes0Dc8nw0C6udg0Dc8nw0C6hes0Dc8nw0C6hes0Dc8nw0C6hes0Dc8nw0C6hes0Dc8nw0C6hes0Dc8nw0C"),
  ("America/St_Kitts", "-251 -240", "zyvop8B"),
  ("America/St_Lucia", "-244 -240", "zvqppsB"),
  ("America/St_Thomas", "-260 -240", "zm9zs0B"),
  ("America/St_Vincent", "-245 -240", "zvqprcB"),
  ("America/Swift_Current", "-431 -420 -360", "wkrme0B6l1h14Ca2vw0Bc5jxg0C1wd180Basys0C8n180Ba31g0C7x3w0Basys0C7x3w0Basys0C7x3w0B3yles0C9cyk0Bs36s0C9cyk0B9d440C7x3w0Bb5xg0C7k580B5j4lg0C"),
  ("America/Tegucigalpa", "-349 -360 -300", "14piekkByho0ikC7k580Bb5xg0C7k580B96x1g0C4qak0B"),
  ("America/Thule", "-275 -240 -180", "129nchoB12yzilgC9cyk0B9d440C9cyk0B9q2s0Cast80B7x9g0Cast80B7x9g0Cast80B8a840Cafuk0B8a840Cafuk0B8a840Cafuk0B8a840Cast80B7x9g0Cast80B7x9g0Cast80B8a840Cafuk0B8a840Cafuk0B8a840Cast80B7x9g0Cast80B7x9g0Cast80B6udg0Cc8nw0B6hes0Cc8nw0B6hes0Cc8nw0B6udg0Cc8nw0B6hes0Cc8nw0B6hes0Cc8nw0B6hes0Cc8nw0B6hes0Cc8nw0B6hes0Cc8nw0B6udg0Cc8nw0B6hes0Cc8nw0B6hes0Cc8nw0B6hes0Cc8nw0B6hes0Cc8nw0B6udg0Cc8nw0B6hes0Cc8nw0B6hes0Cc8nw0B6hes0Cc8nw0B6hes0Cc8nw0B6hes0Cc8nw0B6udg0Cc8nw0B6hes0Cc8nw0B6hes0Cc8nw0B6hes0Cc8nw0B6hes0Cc8nw0B6udg0Cc8nw0B6hes0Cc8nw0B6hes0Cc8nw0B6hes0Cc8nw0B6hes0Cc8nw0B6hes0Cc8nw0B"),
  ("America/Tijuana", "-468 -420 -480", "153nr74B11juo0C1sm040B1si580C71s40B9cyk0C5iidg0B1ux6k0C18uw40Beluk0Coa5g0B7iak0Cb6300B7x3w0Casys0B7x3w0Casw00B7x6o0Casw00B7x6o0Casw00B7x6o0Cb5uo0B7x6o0Casw00B7x6o0Casw00B7x6o0Casw00B7x6o0Casw00B7x6o0C84qys0B9px80C905g0B9px80C9d440B9cyk0C9d440B9cyk0C9d440B9cyk0C9d440B9cyk0C9d440B9px80C905g0B9px80C9d440B9cyk0C9d440B9cyk0C9d440B9cyk0C8a840Bafuk0C8a840Bast80C7x9g0Bast80C7x9g0Bast80C8a840Bafuk0C8a840Bafuk0C8a840Bast80C7x9g0Bast80C7x9g0Bast80C8a840Bafuk0C8a840Bafuk0C8a840Bafuk0C8a840Bast80C7x9g0Bast80C7x9g0Bast80C8a840Bafuk0C8a840Bafuk0C8a840Bast80C7x9g0Bast80C7x9g0Bast80C7x9g0Bast80C8a840Bafuk0C8a840Bafuk0C77c40Bc8nw0C6hes0Bc8nw0C6hes0Bc8nw0C6hes0Bc8nw0C6hes0Bc8nw0C6hes0Bc8nw0C6udg0Bc8nw0C6hes0Bc8nw0C6hes0Bc8nw0C6hes0Bc8nw0C6hes0Bc8nw0C6udg0Bc8nw0C6hes0Bc8nw0C6hes0Bc8nw0C6hes0Bc8nw0C6hes0Bc8nw0C6hes0Bc8nw0C6udg0Bc8nw0C6hes0Bc8nw0C6hes0Bc8nw0C6hes0Bc8nw0C6hes0Bc8nw0C6udg0Bc8nw0C6hes0Bc8nw0C6hes0Bc8nw0C6hes0Bc8nw0C6hes0Bc8nw0C6hes0Bc8nw0C"),
  ("America/Toronto", "-318 -300 -240", "r0eigcBc5efesCa2vw0B7yx60Caqzy0B9q8c0C7jzo0Bbw0c0C6bp80Bcedg0C6h980Bc8tg0C6h980Bbvus0C776k0Bbiw40C776k0Bbiw40C776k0Bbiw40C7k580Bb5xg0C7x3w0Basys0C7x3w0Basys0C7x3w0Basys0C7x3w0Bb5xg0C7k580Bb5xg0C7x3w0Basys0C7x3w0Basys0C7x3w0Basys0C7x3w0Basys0C7x3w0Basys0C7x3w0Bb5xg0C7k580Bb5xg0C2twfw0Basys0C7x3w0Basys0C7x3w0Basys0C7x3w0Basys0Cb5rw0B7x9g0Cast80B7x9g0C7x3w0Basys0C7x3w0Basys0C7x3w0Basys0C7x3w0Basys0C7x3w0Bb5xg0C7x3w0Basys0C9cyk0B9d440C9cyk0B9d440C9cyk0B9d440C9px80B9d440C9cyk0B9d440C9cyk0B9d440C9cyk0B9d440C9cyk0B9d440C9px80B905g0C9px80B9d440C9cyk0B9d440C9cyk0B9d440C9cyk0B9d440C9cyk0B9d440C9px80B9d440C9cyk0B9d440C9cyk0B9d440C9cyk0B9d440C9cyk0B9d440C9px80B905g0C9px80B9d440C9cyk0B9d440C9cyk0B9d440C9cyk0B9d440C9cyk0B9d440C9px80B905g0C9px80B9d440C9cyk0B9d440C9cyk0B9d440C9cyk0B8a840Cafuk0B8a840Cast80B7x9g0Cast80B7x9g0Cast80B8a840Cafuk0B8a840Cafuk0B8a840Cast80B7x9g0Cast80B7x9g0Cast80B8a840Cafuk0B8a840Cafuk0B8a840Cafuk0B8a840Cast80B7x9g0Cast80B7x9g0Cast80B8a840Cafuk0B8a840Cafuk0B8a840Cast80B7x9g0Cast80B7x9g0Cast80B6udg0Cc8nw0B6hes0Cc8nw0B6hes0Cc8nw0B6udg0Cc8nw0B6hes0Cc8nw0B6hes0Cc8nw0B6hes0Cc8nw0B6hes0Cc8nw0B6hes0Cc8nw0B6udg0Cc8nw0B6hes0Cc8nw0B6hes0Cc8nw0B6hes0Cc8nw0B6hes0Cc8nw0B6udg0Cc8nw0B6hes0Cc8nw0B6hes0Cc8nw0B6hes0Cc8nw0B6hes0Cc8nw0B6hes0Cc8nw0B6udg0Cc8nw0B6hes0Cc8nw0B6hes0Cc8nw0B6hes0Cc8nw0B6hes0Cc8nw0B6udg0Cc8nw0B6hes0Cc8nw0B6hes0Cc8nw0B6hes0Cc8nw0B6hes0Cc8nw0B6hes0Cc8nw0B"),
  ("America/Tortola", "-258 -240", "zm9zpwB"),
  ("America/Vancouver", "-492 -480 -420", "l9pzvwBhw36b8Ca2vw0Bc5jxg0C1wd180Basys0C7x3w0Basys0C7x3w0Basys0C7x3w0Basys0C7x3w0Bb5xg0C7k580Bb5xg0C7x3w0Basys0C7x3w0Basys0C7x3w0Basys0C7x3w0Basys0C7x3w0Bb5xg0C7x3w0Basys0C7x3w0Basys0C7x3w0Basys0C7x3w0Basys0C7x3w0Bb5xg0C7k580Bb5xg0C9cyk0B9d440C9cyk0B9d440C9cyk0B9d440C9px80B905g0C9px80B9d440C9cyk0B9d440C9cyk0B9d440C9cyk0B9d440C9cyk0B9d440C9px80B9d440C9cyk0B9d440C9cyk0B9d440C9cyk0B9d440C9cyk0B9d440C9px80B905g0C9px80B9d440C9cyk0B9d440C9cyk0B9d440C9cyk0B9d440C9cyk0B9d440C9px80B905g0C9px80B9d440C9cyk0B9d440C9cyk0B9d440C9cyk0B8a840Cafuk0B8a840Cast80B7x9g0Cast80B7x9g0Cast80B8a840Cafuk0B8a840Cafuk0B8a840Cast80B7x9g0Cast80B7x9g0Cast80B8a840Cafuk0B8a840Cafuk0B8a840Cafuk0B8a840Cast80B7x9g0Cast80B7x9g0Cast80B8a840Cafuk0B8a840Cafuk0B8a840Cast80B7x9g0Cast80B7x9g0Cast80B6udg0Cc8nw0B6hes0Cc8nw0B6hes0Cc8nw0B6udg0Cc8nw0B6hes0Cc8nw0B6hes0Cc8nw0B6hes0Cc8nw0B6hes0Cc8nw0B6hes0Cc8nw0B6udg0Cc8nw0B6hes0Cc8nw0B6hes0Cc8nw0B6hes0Cc8nw0B6hes0Cc8nw0B6udg0Cc8nw0B6hes0Cc8nw0B6hes0Cc8nw0B6hes0Cc8nw0B6hes0Cc8nw0B6hes0Cc8nw0B6udg0Cc8nw0B6hes0Cc8nw0B6hes0Cc8nw0B6hes0Cc8nw0B6hes0Cc8nw0B6udg0Cc8nw0B6hes0Cc8nw0B6hes0Cc8nw0B6hes0Cc8nw0B6hes0Cc8nw0B6hes0Cc8nw0B"),
  ("America/Whitehorse", "-540 -480 -420", "135t8z4Ba2vw0Aasys0B882c0Abmiwc0B1wd180Aa7n3w0C9q000A64dc0B7e3pg0C9cyk0B9d440C9cyk0B9d440C9px80B905g0C9px80B9d440C9cyk0B9d440C9cyk0B9d440C9cyk0B8a840Cafuk0B8a840Cast80B7x9g0Cast80B7x9g0Cast80B8a840Cafuk0B8a840Cafuk0B8a840Cast80B7x9g0Cast80B7x9g0Cast80B8a840Cafuk0B8a840Cafuk0B8a840Cafuk0B8a840Cast80B7x9g0Cast80B7x9g0Cast80B8a840Cafuk0B8a840Cafuk0B8a840Cast80B7x9g0Cast80B7x9g0Cast80B6udg0Cc8nw0B6hes0Cc8nw0B6hes0Cc8nw0B6udg0Cc8nw0B6hes0Cc8nw0B6hes0Cc8nw0B6hes0Cc8nw0B6hes0Cc8nw0B6hes0Cc8nw0B6udg0Cc8nw0B6hes0Cc8nw0B6hes0Cc8nw0B6hes0Cc8nw0B6hes0C"),
  ("America/Winnipeg", "-389 -360 -300", "n46gesBf0j80cC7k580Btj700Ca2vw0B9ok840C6u7w0B2a5hg0C1wd180Bbiw40C7x3w0Ba31g0C7x3w0Basys0C7x3w0Basys0C7x3w0Bb7s40C7tek0Bautg0C7x3w0Basys0C7x3w0Basys0C7x3w0Basys0C7x3w0Basys0C7x3w0Bb5xg0C7x3w0Basys0C7x3w0Basys0C7x3w0Basys0C9cyk0B9d440C7x3w0B1cm2s0C7k580B1cm2s0C9q000B9d1c0C9d1c0B9d1c0C9d1c0B9d1c0C9d1c0B9d1c0C9d1c0B9d1c0C9q000B9d1c0C9d1c0B9d1c0C9d1c0B9d1c0C9d1c0B9d1c0C9d1c0B9d1c0C9q000B902o0C9q000B9d1c0C9d1c0B9d1c0C9d1c0B9d1c0C9d1c0B9d1c0C9d1c0B9d1c0C9q000B902o0C9q000B9d1c0C9d1c0B9d1c0C9d1c0B9d1c0C9d1c0B8a5c0Cafxc0B8a5c0Casw00B7x6o0Casw00B7x6o0Casw00B8a5c0Cafxc0B8a5c0Cafxc0B8a5c0Casw00B7x6o0Casw00B7x6o0Casw00B8a5c0Cafxc0B8a5c0Cafxc0B8a5c0Cafxc0B8a5c0Casw00B7x6o0Casw00B7x6o0Casw00B8a5c0Cafxc0B8a5c0Cafxc0B8a5c0Casw00B7x6o0Casw00B7x6o0Cast80B6udg0Cc8nw0B6hes0Cc8nw0B6hes0Cc8nw0B6udg0Cc8nw0B6hes0Cc8nw0B6hes0Cc8nw0B6hes0Cc8nw0B6hes0Cc8nw0B6hes0Cc8nw0B6udg0Cc8nw0B6hes0Cc8nw0B6hes0Cc8nw0B6hes0Cc8nw0B6hes0Cc8nw0B6udg0Cc8nw0B6hes0Cc8nw0B6hes0Cc8nw0B6hes0Cc8nw0B6hes0Cc8nw0B6hes0Cc8nw0B6udg0Cc8nw0B6hes0Cc8nw0B6hes0Cc8nw0B6hes0Cc8nw0B6hes0Cc8nw0B6udg0Cc8nw0B6hes0Cc8nw0B6hes0Cc8nw0B6hes0Cc8nw0B6hes0Cc8nw0B6hes0Cc8nw0B"),
  ("America/Yakutat", "881 -559 -540 -480", "cta575Bh4yv3iCln720hD1wd180Ccawis0D9cyk0C9d440D9cyk0C9d440D9px80C9d440D9cyk0C9d440D9cyk0C3lpg0Df4d80C64g40Dclmk0C9d440D9px80C905g0D9px80C9d440D9cyk0C9d440D9cyk0C9d440D9cyk0C9d440D9cyk0C9d440D9px80C905g0D9px80C9d440D9cyk0C9d440D9cyk0C9d440D9cyk0C8a840Dafuk0C8a840Dast80C7x9g0Dast80C7x9g0Dast80C8a840Dafuk0C8a840Dafuk0C8a840Dast80C7x9g0Dast80C7x9g0Dast80C8a840Dafuk0C8a840Dafuk0C8a840Dafuk0C8a840Dast80C7x9g0Dast80C7x9g0Dast80C8a840Dafuk0C8a840Dafuk0C8a840Dast80C7x9g0Dast80C7x9g0Dast80C6udg0Dc8nw0C6hes0Dc8nw0C6hes0Dc8nw0C6udg0Dc8nw0C6hes0Dc8nw0C6hes0Dc8nw0C6hes0Dc8nw0C6hes0Dc8nw0C6hes0Dc8nw0C6udg0Dc8nw0C6hes0Dc8nw0C6hes0Dc8nw0C6hes0Dc8nw0C6hes0Dc8nw0C6udg0Dc8nw0C6hes0Dc8nw0C6hes0Dc8nw0C6hes0Dc8nw0C6hes0Dc8nw0C6hes0Dc8nw0C6udg0Dc8nw0C6hes0Dc8nw0C6hes0Dc8nw0C6hes0Dc8nw0C6hes0Dc8nw0C6udg0Dc8nw0C6hes0Dc8nw0C6hes0Dc8nw0C6hes0Dc8nw0C6hes0Dc8nw0C6hes0Dc8nw0C"),
  ("Antarctica/Casey", "0 480 660", "1tmpyf4Blag4o0C73bo0Buz1o0C60l80B2fnh80Cpz9g0Bat4c0C89u80Bacgc0C80no0Basw1oC89wycBag5poC89wycBag5poC84lacB"),
  ("Antarctica/Davis", "0 420 300", "1ndvif4B42jdw0A27wgs0Bl8uss0C7eqs0Bunmk0C60qs0B"),
  ("Antarctica/DumontDUrville", "0 600", "1i5ch34B2mks80A2i72g0B"),
  ("Antarctica/Macquarie", "0 600 660", "tj6mf4B8ts4g0C902o0B11wns0Af4kh40Ba6p8g0C9d1c0Basw00C6uao0Bbvs00C6uao0Bbvs00C779c0Bbvs00C64dc0Bclpc0C6hc00Bc8qo0C6hc00Bc8qo0C6hc00Bc8qo0C6uao0Bc8qo0C6hc00Bc8qo0C6hc00Bc8qo0C6hc00Bc8qo0C6hc00Bc8qo0C6hc00Bc8qo0C7x6o0Bb5uo0C7k800Bb5uo0C6hc00Bc8qo0C6hc00Bc8qo0C6hc00Bbvs00C7k800Bbitc0C7k800Bbitc0C779c0Bbitc0C779c0Bbitc0C7x6o0B9q000C902o0B9q000C902o0B9q000C902o0B9q000C902o0B9q000C9d1c0B9q000C902o0B9q000C902o0B9q000C902o0B9q000C902o0B7x6o0Casw00Ba2yo0C902o0B9q000C902o0B9q000C902o0B9q000C902o0B9q000C9d1c0B9d1c0C902o0Ba2yo0C9d1c0B9d1c0C9d1c0B9d1c0Cs3400B9d1c0C9d1c0B9q000C9d1c0B9d1c0C9d1c0B9d1c0C9d1c0B9d1c0C9d1c0B9d1c0C9d1c0B9d1c0C9d1c0B9q000C9d1c0B9d1c0C9d1c0B9d1c0C9d1c0B9d1c0C9d1c0B9d1c0C9d1c0B9d1c0C9q000B9d1c0C9d1c0B9d1c0C9d1c0B9d1c0C9d1c0B9d1c0C9d1c0B9d1c0C9d1c0B9q000C9d1c0B9d1c0C9d1c0B9d1c0C9d1c0B9d1c0C9d1c0B9d1c0C9d1c0B9d1c0C9d1c0B9q000C9d1c0B9d1c0C9d1c0B9d1c0C"),
  ("Antarctica/Mawson", "0 360 300", "1lv3af4Bt22y80C"),
  ("Antarctica/McMurdo", "0 720 780", "1mufif4B9txtk0C5reo0Bclpc0C6uao0Bc8qo0C6hc00Bc8qo0C6hc00Bc8qo0C6hc00Bc8qo0C6hc00Bc8qo0C6hc00Bc8qo0C6uao0Bc8qo0C6hc00Bc8qo0C6hc00Bc8qo0C6hc00Bc8qo0C6hc00Bc8qo0C6hc00Bc8qo0C6uao0Bc8qo0C6hc00Bb5uo0C8a5c0Bafxc0C8a5c0Bafxc0C8a5c0Bafxc0C8n400Ba2yo0C8n400Ba2yo0C8n400Ba2yo0C8n400Bafxc0C8a5c0Bafxc0C8a5c0Bafxc0C8n400Ba2yo0C8n400Ba2yo0C8n400Bafxc0C8a5c0Bafxc0C8a5c0Bafxc0C8n400Ba2yo0C8n400Ba2yo0C8n400Ba2yo0C8n400Ba2yo0C9q000B902o0C9q000B902o0C9q000B902o0C9q000B902o0C9q000B9d1c0C9q000B902o0C9q000B902o0C9q000B902o0C9q000B902o0C9q000B902o0C9q000B9d1c0C9q000B902o0C9q000B902o0C9q000B902o0C9q000B902o0C9q000B902o0Ca2yo0B902o0C9q000B902o0C9q000B902o0C9q000B902o0C9q000B902o0C9q000B9d1c0C9q000B902o0C9q000B902o0C9q000B902o0C9q000B902o0C9q000B902o0C9q000B9d1c0C9q000B902o0C9q000B902o0C"),
  ("Antarctica/Palmer", "0 -180 -240 -120", "1rjkef4B31ho0Cbqas0B71mk0Cbqas0B8ovw0C9d440B9px80C9d440B9cyk0C9d440B28t6k0D51ek0B46b6s0C8c2s0B7x3w0Casys0B7x3w0Cb5xg0B7k580Cb5xg0B7k580Cb5xg0B9cyk0C9d440B7x3w0Casys0B7x3w0Cb5xg0B7k580C9q2s0B8zzw0Cb5xg0B7x3w0Casys0B7x3w0Casys0B7x3w0Casys0B7x3w0Cb5xg0B7k580Cb5xg0B8n180Ca31g0B7x3w0Ca31g0B9px80C9q2s0B7x3w0Cb5xg0B7k580Cb5xg0B7k580Cb5xg0B7k580Cb5xg0B7x3w0Casys0B7x3w0Casys0B7x3w0Cb5xg0B7k580Cb5xg0B8n180Ca31g0B7x3w0Casys0B8zzw0C9q2s0Bast80C5eis0Bcyl80C6hes0Bc8nw0C6udg0Bbvp80C6udg0Bvonw0C4olg0B"),
  ("Antarctica/Rothera", "0 -180", "1xrfnr4B"),
  ("Antarctica/Syowa", "0 180", "1nep534B"),
  ("Antarctica/Troll", "0 120", "2cjhfv4Bb5uo0A7k800Bb5uo0A7k800Bb5uo0A7x6o0Basw00A7x6o0Basw00A7x6o0Bb5uo0A7k800Bb5uo0A7k800Bb5uo0A7x6o0Basw00A7x6o0Basw00A7x6o0Basw00A7x6o0Bb5uo0A7k800Bb5uo0A7k800Bb5uo0A7x6o0Basw00A7x6o0Basw00A7x6o0Bb5uo0A7k800Bb5uo0A7k800Bb5uo0A7x6o0Basw00A7x6o0Basw00A7x6o0Basw00A7x6o0Bb5uo0A7k800Bb5uo0A7k800Bb5uo0A7x6o0Basw00A7x6o0Basw00A7x6o0Bb5uo0A7k800Bb5uo0A7k800Bb5uo0A7k800Bb5uo0A7x6o0Basw00A7x6o0Basw00A"),
  ("Antarctica/Vostok", "0 420 300", "1nv7l34Biushw0Ae23g0Bf79gs0C"),
  ("Asia/Aden", "180", ""),
  ("Asia/Almaty", "308 300 360 420", "16bgli4B37a0d0Cqi27w0D9et80C9d440D9et80C9d440D9et80C9eys0D9d6w0C9d1c0D9d1c0C9d1c0D9d1c0C9d1c0D9d1c0C9d1c0D9d1c0C9d1c0D9d1c0C9d1c0D9q000Ciq5g0B5reo0C3ljw0D9d1c0C9d1c0D9d1c0C9d1c0D9d1c0C9d1c0D9d1c0C9q000Dasw00C7x6o0Dasw00C7x6o0Dasw00C7x6o0Db5uo0C7k800Db5uo0C7k800Db5uo0C7x6o0Dasw00C7x6o0Dasw00C7x6o0Db5uo0Ca37rs0B"),
  ("Asia/Amman", "144 120 180", "19sq2fkBm566fkC60l80Bawo40C7v980Bawo40C7v980Bayis0C9gnw0B9b9g0C7v980Bautg0C7v980B3e6840C9et80B9io40C9cyk0B9d440C9cyk0B9d440C9px80Bayis0C7rjw0Bag040C8a2k0B9zc40C8drw0Ba31g0C8zzw0B9d440C9cyk0B9d440C8n180Bag040C8a5c0Bafxc0C8n400Ba2yo0C8n400Ba2yo0C8n400Bepmo0C4deo0B9o5c0C9ew00B9b6o0C9ew00B9d1c0C9d1c0B9d1c0Casw00B7x6o0Cafxc0B8n400C9d1c0B9d1c0Casw00B7x6o0Casw00B7x6o0Cb5uo0B7k800Cb5uo0B7k800Cb5uo0B7x6o0Casw00B7x6o0Cwel80B51k40Cb5uo0B7k800Cb5uo0B7x6o0Casw00B7x6o0Casw00B7x6o0Casw00B7x6o0Casw00B7x6o0Cb5uo0B7k800Cb5uo0B64dc0C"),
  ("Asia/Anadyr", "710 720 780 840 660", "16bg2vwB379zj8Cqi27w0D9et80Cis040B9d440C9et80B9eys0C9d6w0B9d1c0C9d1c0B9d1c0C9d1c0B9d1c0C9d1c0B9d1c0C9d1c0B9d1c0C9d1c0B9d1c0C9q000Biq5g0E5reo0B3ljw0C9d1c0B9d1c0C9d1c0B9d1c0C9d1c0B9d1c0C9d1c0B9q000Casw00B7x6o0Casw00B7x6o0Casw00B7x6o0Cb5uo0B7k800Cb5uo0B7k800Cb5uo0B7x6o0Casw00B7x6o0Casw00B7x6o0Cb5uo0B7k800Cb5uo0B7k800Cb5uo0B7k800Cb5uo0B7x6o0Casw00B7x6o0Casw00Bj3440E7k800B"),
  ("Asia/Aqtau", "201 240 300 360", "16bgqg0B379y74Cqrh3w0Diruk0C9d440D9et80C9eys0D9d6w0C9d1c0D9d1c0C9d1c0D9d1c0C9d1c0D9d1c0C9d1c0D9d1c0C9d1c0D9d1c0C9d1c0D9q000Ciq5g0B5reo0C3ljw0D9d1c0C9d1c0D9d1c0C9d1c0D9d1c0B9d440C9d1c0B9q000Casw00B7x6o0Casw00B7x6o0Casw00B7x6o0Cb5uo0B7k800Cb5uo0B7k800Cb5uo0B7x6o0Casw00B7x6o0Casw00B7x6o0C"),
  ("Asia/Aqtobe", "229 240 300 360", "16bgp60B379zh4Cqi27w0Ds6qk0C9d440D9et80C9eys0D9d6w0C9d1c0D9d1c0C9d1c0D9d1c0C9d1c0D9d1c0C9d1c0D9d1c0C9d1c0D9d1c0C9d1c0D9q000Ciq5g0B5reo0C3ljw0D9d1c0C9d1c0D9d1c0C9d1c0D9d1c0C9d1c0D9d1c0C9q000Dasw00C7x6o0Dasw00C7x6o0Dasw00C7x6o0Db5uo0C7k800Db5uo0C7k800Db5uo0C7x6o0Dasw00C7x6o0Dasw00C7x6o0Db5uo0C"),
  ("Asia/Ashgabat", "234 240 300 360", "16bgoxwB379zp8Cqi27w0D9et80C9d440D9et80C9d440D9et80C9eys0D9d6w0C9d1c0D9d1c0C9d1c0D9d1c0C9d1c0D9d1c0C9d1c0D9d1c0C9d1c0D9d1c0C9d1c0D9q000Ciq5g0B5reo0C"),
  ("Asia/Atyrau", "208 180 300 360 240", "16bgq4wB37a1a8Cqrh140Diruk0C9d440D9et80C9eys0D9d6w0C9d1c0D9d1c0C9d1c0D9d1c0C9d1c0D9d1c0C9d1c0D9d1c0C9d1c0D9d1c0C9d1c0D9q000Ciq5g0E5reo0C3ljw0D9d1c0C9d1c0D9d1c0C9d1c0D9d1c0C9d1c0D9d1c0C9q000Dasw00C7x6o0Dasw00C7x6o0Dasw00Cj3440E7k800Cb5uo0E7k800Cb5uo0E7x6o0Casw00E7x6o0Casw00E7x6o0C"),
  ("Asia/Baghdad", "178 180 240", "130hfj4Bxkn3w0C7v980B9b9g0C9gnw0B9eys0C9et80B9d440C9b9g0B9d1c0C9d1c0B9d1c0C9d1c0B9d1c0C9d1c0B9d1c0C9d1c0B9d1c0C9q000B9f1k0C9ew00B9ew00C9ew00B9d1c0C9ew00B9d1c0C9ew00B9d1c0C9ew00B9ew00C9ew00B9d1c0C9ew00B9d1c0C9ew00B9d1c0C9ew00B9ew00C9ew00B9d1c0C9ew00B9d1c0C9ew00B9d1c0C9ew00B9ew00C9ew00B9d1c0C9ew00B9d1c0C9ew00B9d1c0C9ew00B"),
  ("Asia/Bahrain", "202 210 240 180", "1fax6dwB1a1eb8Cetwby0D"),
  ("Asia/Baku", "199 180 240 300", "16bgqisBh4tkwcCckinw0D9et80C9d440D9et80C9d440D9et80C9eys0D9d6w0C9d1c0D9d1c0C9d1c0D9d1c0C9d1c0D9d1c0C9d1c0D9d1c0C9d1c0D9d1c0C9d1c0D9q000Ciq5g0B9d1c0C239ew0Dasw00C7x3w0Dasw00C7x6o0Dasw00C7x6o0Db5uo0C7k800Db5uo0C7k800Db5uo0C7x6o0Dasw00C7x6o0Dasw00C7x6o0Db5uo0C7k800Db5uo0C7k800Db5uo0C7k800Db5uo0C7x6o0Dasw00C7x6o0Dasw00C7x6o0Db5uo0C7k800Db5uo0C7k800Db5uo0C7x6o0Dasw00C7x6o0Dasw00C7x6o0Dasw00C"),
  ("Asia/Bangkok", "402 420", "146pih0B"),
  ("Asia/Barnaul", "335 360 420 480", "140wc8sB5hu6ucCqi27w0D9et80C9d440D9et80C9d440D9et80C9eys0D9d6w0C9d1c0D9d1c0C9d1c0D9d1c0C9d1c0D9d1c0C9d1c0D9d1c0C9d1c0D9d1c0C9d1c0D9q000Ciq5g0B5reo0C3ljw0D9d1c0C9d1c0D9d1c0C9d1c0D9d1c0C9d1c0D38fo0C64og0B9q000Casw00B7x6o0Casw00B7x6o0Casw00B7x6o0Cb5uo0B7k800Cb5uo0B7k800Cb5uo0B7x6o0Casw00B7x6o0Casw00B7x6o0Cb5uo0B7k800Cb5uo0B7k800Cb5uo0B7k800Cb5uo0B7x6o0Casw00B7x6o0Casw00B7x6o0Cb5uo0B7k800C1vbzw0Bqnc40C"),
  ("Asia/Beirut", "142 120 180", "j6jmigBkzyucoCaunw0B88dg0C9et80B8yas0Ca2vw0Ba31g0C7k580Bhjqo40C7v980Bawo40C7v980Bawo40C7v980Bayis0C7v980Bawo40C7v980B5lhs40C56yk0Bawo40C7v980Bawo40C7v980Bawo40C7v980Bayis0C7v980Bawo40C7v980Bautg0C7v980B2wxus0C8n180Ba4w40C8n180Ba4w40C8n180Ba4w40C8n180Bbs5g0C71mk0Balk40C86d80Ba4w40C8n180Ba4w40C8n180Ba6qs0C80t80B905g0C9cyk0B9d440C9cyk0B9d440C9cyk0B9q2s0C9cyk0B9d440C9cyk0B9d440C9cyk0B9d440Cb5rw0B7kas0Cb5rw0B7kas0Cb5rw0B7x9g0Cast80B7x9g0Cast80B7x9g0Cb5rw0B7kas0Cb5rw0B7kas0Cb5rw0B7kas0Cb5rw0B7x9g0Cast80B7x9g0Cast80B7x9g0Cb5rw0B7kas0Cb5rw0B7kas0Cb5rw0B7x9g0Cast80B7x9g0Cast80B7x9g0Cast80B7x9g0Cb5rw0B7kas0Cb5rw0B7kas0Cb5rw0B7x9g0Cast80B7x9g0Cast80B7x9g0Cb5rw0B7kas0Cb5rw0B7kas0Cb5rw0B7x9g0Cast80B7x9g0Cast80B7x9g0Cast80B7x9g0Cb5rw0B7kas0Cb5rw0B7kas0Cb5rw0B7x9g0Cast80B7x9g0Cast80B7x9g0Cb5rw0B7kas0Cb5rw0B7kas0Cb5rw0B7kas0Cb5rw0B7x9g0Cast80B7x9g0Cast80B"),
  ("Asia/Bishkek", "298 300 360 420", "16bglxsB379zxcCqi27w0D9et80C9d440D9et80C9d440D9et80C9eys0D9d6w0C9d1c0D9d1c0C9d1c0D9d1c0C9d1c0D9d1c0C9d1c0D9d1c0C9d1c0D9d1c0C9d1c0D9q000Ch8dc0Bbkl80C8n180Ba31g0C8n180Ba31g0C8n180Ba31g0C8n180Ba31g0C8zzw0B9db20Cast80B7x9g0Cast80B7x9g0Cb5rw0B7kas0Cb5rw0B7kas0Cb5rw0B7x9g0Cast80B7x9g0Cast80B7x9g0Cb5rw0B7kas0C"),
  ("Asia/Brunei", "460 450 480", "179tft0B3khxs4C"),
  ("Asia/Chita", "454 480 540 600", "1415g2oB5hkxggCqi27w0D9et80C9d440D9et80C9d440D9et80C9eys0D9d6w0C9d1c0D9d1c0C9d1c0D9d1c0C9d1c0D9d1c0C9d1c0D9d1c0C9d1c0D9d1c0C9d1c0D9q000Ciq5g0B5reo0C3ljw0D9d1c0C9d1c0D9d1c0C9d1c0D9d1c0C9d1c0D9d1c0C9q000Dasw00C7x6o0Dasw00C7x6o0Dasw00C7x6o0Db5uo0C7k800Db5uo0C7k800Db5uo0C7x6o0Dasw00C7x6o0Dasw00C7x6o0Db5uo0C7k800Db5uo0C7k800Db5uo0C7k800Db5uo0C7x6o0Dasw00C7x6o0Dasw00C7x6o0Db5uo0C7k800D1vbzw0Bqnew0C"),
  ("Asia/Colombo", "319 320 330 360 390", "j6jeasBdkh6nsCisle6kDcajy0E1mp2u0Cqetjw0E7x5a0D4xvqq0C"),
  ("Asia/Damascus", "145 120 180", "1421bp4B5k6q0C8n180Ba31g0C8n180Ba31g0C8n180Ba31g0C8zzw0Bk4hk40C7yyk0Bawo40C7tek0Bb0dg0C7v980Bawo40C7tek0Balk40C887w0Bawo40C7v980Bayis0C7v980Bawo40C7v980Bawo40C7v980Bawo40C7v980Bayis0C7v980Bawo40C7v980Bawo40C7v980Bawo40C7v980Bayis0C7v980Bawo40C6bp80Bcg840C6bp80B2eh1g0C8zzw0B9ts40C8zzw0Bpvk40Cc33w0B7cw40Ccjrw0B6zxg0Cbtuk0B7rpg0C9gnw0B9d440C9cyk0B9et80C9et80B9rxg0C91uk0B92040C9et80B9o840C9et80B9d440C9et80B9eys0C9et80B9b9g0C9gnw0B99es0C9iik0B9d440C9et80B9eys0C9et80B9d440C9et80B9d440C9et80B9d440C9et80B9eys0C9et80B9d440C9et80B9d440C8y580B9q2s0Cb5rw0B7x9g0Caunw0B7ig40Cb5rw0B7x9g0Cast80B7x9g0Cast80B7x9g0Cast80B7x9g0Cast80B7x9g0Cb5rw0B7kas0Cb5rw0B7kas0Cb5rw0B7x9g0Cast80B7x9g0Cast80B7x9g0Cast80B7x9g0Cb5rw0B7kas0Cb5rw0B7kas0C"),
  ("Asia/Dhaka", "362 353 390 330 360 420", "oeg5ocBr080dwCbmgywD5lxg0C4qknw0Eu4ijy0Fa1400E"),
  ("Asia/Dili", "502 480 540", "zvps74Bfqct80Chufs00Bcpz440C"),
  ("Asia/Dubai", "221 240", "142186gB"),
  ("Asia/Dushanbe", "275 300 360 420", "16bgn0gB379yuoCqi27w0D9et80C9d440D9et80C9d440D9et80C9eys0D9d6w0C9d1c0D9d1c0C9d1c0D9d1c0C9d1c0D9d1c0C9d1c0D9d1c0C9d1c0D9d1c0C9d1c0D9q000Chp440B"),
  ("Asia/Famagusta", "136 120 180", "15165gsBrvhy2cC9cyk0Bb42s0C7nuk0B8yas0C8zzw0B9q2s0C9et80B9b9g0C9cyk0B9q2s0C8zzw0B9d440C9cyk0B9d440C9cyk0B9d440C9cyk0B9d440C9px80B9d440C9cyk0B9d440C9cyk0B9d440C9cyk0B9d440C9cyk0B9d440C9cyk0B9d440C9px80B9d440C9cyk0B9d440C9cyk0B9d440C9cyk0B9d440C9cyk0B9d440C9cyk0B9q2s0C9cyk0B9d440C9cyk0B9d440Cat4c0B7x6o0Cb5uo0B7k800Cb5uo0B7k800Cb5uo0B7x6o0Casw00B7x6o0Casw00B7x6o0Cb5uo0B7k800Cb5uo0B7k800Cb5uo0B7k800Cb5uo0B7x6o0Casw00B7x6o0Casw00B7x6o0Cb5uo0B7k800Cb5uo0B7k800Cb5uo0B7x6o0Casw00B7x6o0Casw00B7x6o0Casw00B7x6o0Ctvxc0B7k800Cb5uo0B7x6o0Casw00B7x6o0Casw00B7x6o0Cb5uo0B7k800Cb5uo0B7k800Cb5uo0B7x6o0Casw00B7x6o0Casw00B7x6o0Casw00B7x6o0Cb5uo0B7k800Cb5uo0B7k800Cb5uo0B7x6o0Casw00B7x6o0Casw00B7x6o0Cb5uo0B7k800Cb5uo0B7k800Cb5uo0B7k800Cb5uo0B7x6o0Casw00B7x6o0Casw00B"),
  ("Asia/Gaza", "138 120 180", "u0cypcBkp9t1sC69xc0B2f1c0C10q800B7rmo0Cb0ao0B7thc0Cb0ao0B8jeo0Ca8io0B8jeo0Ca8io0B5hoig0C7el80Bawo40C7v980Bawqw0C7tk40Bb07w0C7tk40Bayd80C7tk40Bayd80C7tk40Bayd80C7tk40Bb07w0C7tk40Bayd80C7tk40Bayd80C7ves0Bawik0C1sns0B3p6is0C51ek0B9q2s0C6u7w0B2kjk40C25s00B1weyo0C5reo0Bbvs00C776k0Bdbpg0C5rbw0Bbbhg0C7rjw0Basys0C7k580Bc8tg0C6h980Bag040C7x3w0Basys0C8a2k0Basys0C8a2k0Bap9g0C80t80Bap9g0C7nuk0Bb2840C80t80Bb2840C8n400Ba2yo0C8n400Ba2yo0C8n400Basw00C9cyk0B9q2s0C9cyk0B9d440C9cyk0B9d440C9cyk0B9d440C9cyk0B9d440C8n400Ba2yo0C8ulg0B97ek0C8y580B9ts40C8hms0Ba4qk0C7x3w0Basys0C8a5c0Bahs1oC71micBbzk5oC69uicBcg840C902o0B9q000C9cyk0B9d440Cast80B7z440Car1c0B7z440Cb5rw0B7kas0Cb5rw0B7kas0Cb5rw0B7vc00Caunw0B7x9g0Casw00B7x6o0Cb4000B7nxc0Cb42s0B9d440C9cyk0B905g0C9px80B8n6s0Ca2vw0B7x9g0Cast80B7x9g0Cb5rw0B7kas0Cb5rw0B7kas0Cb5rw0B7x9g0Cast80B7x9g0Cast80B7x9g0Cb5rw0B7kas0Cb5rw0B7kas0Cb5rw0B7kas0Cb5rw0B7x9g0Cafuk0B8a840Ca2vw0B"),
  ("Asia/Hebron", "140 120 180", "u0cyl5Bkp9t5zC69xc0B2f1c0C10q800B7rmo0Cb0ao0B7thc0Cb0ao0B8jeo0Ca8io0B8jeo0Ca8io0B5hoig0C7el80Bawo40C7v980Bawqw0C7tk40Bb07w0C7tk40Bayd80C7tk40Bayd80C7tk40Bayd80C7tk40Bb07w0C7tk40Bayd80C7tk40Bayd80C7ves0Bawik0C1sns0B3p6is0C51ek0B9q2s0C6u7w0B2kjk40C25s00B1weyo0C5reo0Bbvs00C776k0Bdbpg0C5rbw0Bbbhg0C7rjw0Basys0C7k580Bc8tg0C6h980Bag040C7x3w0Basys0C8a2k0Basys0C8a2k0Bap9g0C80t80Bap9g0C7nuk0Bb2840C80t80Bb2840C8n400Ba2yo0C8n400Ba2yo0C8n400Basw00C9cyk0B9q2s0C9cyk0B9d440C9cyk0B9d440C9cyk0B9d440C9cyk0B9d440C8n400Ba2yo0C8ulg0B97ek0C8y580B9ts40C8hms0Ba4qk0C82nw0Banes0C8a5c0Bafxc0C73h80Bbzk5oC69uicB1hs40C1lbw0B9d440C902o0B9q000C9cyk0B9d440Cast80B7z440Car1c0B7z440Cb5rw0B7kas0Cb5rw0B7kas0Cb5rw0B7vc00Caunw0B7x9g0Casw00B7x6o0Cb4000B7nxc0Cb42s0B9d440C9cyk0B905g0C9px80B8n6s0Ca2vw0B7x9g0Cast80B7x9g0Cb5rw0B7kas0Cb5rw0B7kas0Cb5rw0B7x9g0Cast80B7x9g0Cast80B7x9g0Cb5rw0B7kas0Cb5rw0B7kas0Cb5rw0B7kas0Cb5rw0B7x9g0Cafuk0B8a840Ca2vw0B"),
  ("Asia/Ho_Chi_Minh", "427 420 480 540", "zj45caBgj25iuC15ct80D8so00Btmtk0C4azmo0B2cm7w0C8285c0B"),
  ("Asia/Hong_Kong", "457 480 540 510", "w4zuz4Bj44dk0C5k000D4d4y0C2195i0B7x3w0Cbj320B6uao0Cbvs00B7x6o0C9d1c0B7x6o0Casw00B7x6o0Casw00B7x6o0Casw00B8a5c0Casw00B7x6o0Cast80B77c40Cbiqk0B77c40Cbvp80B6udg0Cbvp80B77c40Cbiqk0B77c40Cbiqk0B77c40Cbiqk0B77c40Cbvp80B6udg0Cbvp80B6udg0Cbvp80B77c40Cbiqk0B77c40Cbiqk0B8n6s0C9cyk0B9d440C9cyk0B9d440C9px80B9d440C9cyk0B9d440C9cyk0B9d440C9cyk0B9d440C9cyk0B9d440C9px80B9d440C9cyk0B3lpg0Cf4d80B9d440C9cyk0B9d440C9cyk0B1c9440C8a2k0B"),
  ("Asia/Hovd", "367 360 420 480", "wj56s4B11sncb0C2qk2k0D9et80C9eys0D9cyk0C9d440D9cyk0C9d440D9cyk0C9d440D9cyk0C9d440D9cyk0C9d440D9cyk0C9d440D9px80C9d440D9cyk0C9d440D9cyk0C9d440D9cyk0C9d440D9cyk0C9d440D9cyk0C9q2s0D9cyk0C9d440D9cyk0C9d440D9cyk0C1ckdo0D7x3w0C9d440D9cyk0C9d440D9cyk0C9d440D9cyk0C9d440D9cyk0C9d440D9px80C4fio40D9ct00C9d9o0D9ct00C"),
  ("Asia/Irkutsk", "417 420 480 540", "1439f3zB5fh175Cqi27w0D9et80C9d440D9et80C9d440D9et80C9eys0D9d6w0C9d1c0D9d1c0C9d1c0D9d1c0C9d1c0D9d1c0C9d1c0D9d1c0C9d1c0D9d1c0C9d1c0D9q000Ciq5g0B5reo0C3ljw0D9d1c0C9d1c0D9d1c0C9d1c0D9d1c0C9d1c0D9d1c0C9q000Dasw00C7x6o0Dasw00C7x6o0Dasw00C7x6o0Db5uo0C7k800Db5uo0C7k800Db5uo0C7x6o0Dasw00C7x6o0Dasw00C7x6o0Db5uo0C7k800Db5uo0C7k800Db5uo0C7k800Db5uo0C7x6o0Dasw00C7x6o0Dasw00C7x6o0Db5uo0C7k800D1vbzw0C"),
  ("Asia/Jakarta", "427 440 450 540 480 420", "1656i1sB4lzxc0C4wdzjcD1tu960C1cx860E11jta0C74uc20F"),
  ("Asia/Jayapura", "563 540 570", "1ar69p4B66bqe0Ca37vy0B"),
  ("Asia/Jerusalem", "141 120 180 240", "130hh8oBbp5aigC69xc0B2f1c0C10q800B7rmo0Cb0ao0B7thc0Cb0ao0B8jeo0Ca8io0B8jeo0Ca8io0Bt9pc0D571c0C34yo0B9b6o0C9gqo0B8jeo0C7thc0Ba6o00Cbitc0B8a5c0C9d1c0B902o0C7x6o0Be1k00C4oio0Be1k00C4oio0Bdolc0C64dc0Basw00C7k800B8rfeg0C51ek0B9q2s0C6u7w0B2kjk40C25s00B1weyo0C5reo0Bbvs00C776k0Bdbpg0C5rbw0Bbbhg0C7rjw0Basys0C7k580Bc8tg0C6h980Bag040C7x3w0Basys0C8a2k0Basys0C8a2k0Bap9g0C80t80Bap9g0C7nuk0Bb2840C80t80B9zc40C9iik0B9kis0C93p80B9mdg0C8qqk0Bapf00C7x3w0Bbiw40C8zx40B9io40C8n180B9kis0C9vh80B8ulg0C9px80B9mdg0C8n180B9tuw0C9tmk0B8wg40C9gnw0B99es0C8qqk0B9zc40C9tmk0B8wg40C9gnw0B99es0C8qqk0Bacas0C9gnw0B99es0C93p80B9mdg0Cawik0B7tk40Cawik0B7tk40Cawik0B7tk40Cb9h80B7glg0Cb9h80B7glg0Cb9h80B7tk40Cawik0B7tk40Cawik0B7tk40Cb9h80B7glg0Cb9h80B7glg0Cb9h80B7tk40Cawik0B7tk40Cawik0B7tk40Cawik0B7tk40Cb9h80B7glg0Cb9h80B7glg0Cb9h80B7tk40Cawik0B7tk40Cawik0B7tk40Cb9h80B7glg0Cb9h80B7glg0Cb9h80B7glg0Cb9h80B7tk40Cawik0B7tk40Cawik0B"),
  ("Asia/Kabul", "277 240 270", "oeg9lsBspc1pcC"),
  ("Asia/Kamchatka", "635 660 720 780", "15jq11gB3z045oCqi27w0D9et80C9d440D9et80C9d440D9et80C9eys0D9d6w0C9d1c0D9d1c0C9d1c0D9d1c0C9d1c0D9d1c0C9d1c0D9d1c0C9d1c0D9d1c0C9d1c0D9q000Ciq5g0B5reo0C3ljw0D9d1c0C9d1c0D9d1c0C9d1c0D9d1c0C9d1c0D9d1c0C9q000Dasw00C7x6o0Dasw00C7x6o0Dasw00C7x6o0Db5uo0C7k800Db5uo0C7k800Db5uo0C7x6o0Dasw00C7x6o0Dasw00C7x6o0Db5uo0C7k800Db5uo0C7k800Db5uo0C7k800Db5uo0C7x6o0Dasw00C7x6o0Dasw00Cj3440B7k800C"),
  ("Asia/Karachi", "268 330 390 300 360", "x9sko4Bim3zt0C1mn180B33xpg0Dqd6eq0E9cyk0D2y85g0E7v980D8hms0Eaaak0D"),
  ("Asia/Kathmandu", "341 330 345", "14212mcByg2lusC"),
  ("Asia/Khandyga", "542 480 540 600 660", "1415bzfB5hl1jpCqi27w0D9et80C9d440D9et80C9d440D9et80C9eys0D9d6w0C9d1c0D9d1c0C9d1c0D9d1c0C9d1c0D9d1c0C9d1c0D9d1c0C9d1c0D9d1c0C9d1c0D9q000Ciq5g0B5reo0C3ljw0D9d1c0C9d1c0D9d1c0C9d1c0D9d1c0C9d1c0D9d1c0C9q000Dasw00C7x6o0Dasw00C7x6o0Dasw00C7x6o0Db5uo0C7k800Db5uo0C7k800Db5uo0C7x6o0Dasw00C7x6o0Dasw00C3fx40D4h6s0Eb5uo0D7k800Eb5uo0D7k800Eb5uo0D7k800Eb5uo0D7x6o0Easw00D7x6o0Easw00D7x6o0Eb5uo0D7k800E8ql00D1mlho0C"),
  ("Asia/Kolkata", "353 321 330 390", "dyoe28Bisc6tmCinnm9aDbmfw0C5lxg0D1mn180C"),
  ("Asia/Krasnoyarsk", "371 360 420 480", "142aak2B5gg8j2Cqi27w0D9et80C9d440D9et80C9d440D9et80C9eys0D9d6w0C9d1c0D9d1c0C9d1c0D9d1c0C9d1c0D9d1c0C9d1c0D9d1c0C9d1c0D9d1c0C9d1c0D9q000Ciq5g0B5reo0C3ljw0D9d1c0C9d1c0D9d1c0C9d1c0D9d1c0C9d1c0D9d1c0C9q000Dasw00C7x6o0Dasw00C7x6o0Dasw00C7x6o0Db5uo0C7k800Db5uo0C7k800Db5uo0C7x6o0Dasw00C7x6o0Dasw00C7x6o0Db5uo0C7k800Db5uo0C7k800Db5uo0C7k800Db5uo0C7x6o0Dasw00C7x6o0Dasw00C7x6o0Db5uo0C7k800D1vbzw0C"),
  ("Asia/Kuala_Lumpur", "407 415 420 440 450 540 480", "u52zl6B2ax69lCeeb94dD4it32oE8n3jcF1v2p60Eiy3ms0G"),
  ("Asia/Kuching", "441 450 480 500 540", "179tgnkB3khwxkC1epvy0D4ohqoCe5a9cD4ohqoCe3flcD4ohqoCe3flcD4ohqoCe3flcD4ohqoCe5a9cD4ohqoCe3flcD4ohqoC3ajlcE1v2qk0C"),
  ("Asia/Kuwait", "192 180", "1jppuv8B"),
  ("Asia/Macau", "454 480 540 600", "w4zte6BjdvyoyC6onw0Dac580C8fs40D7v980C11luw0Bawlc0C7vc00Bac800Cbko00B7x6o0C9d1c0B7vc00Casw00B7x6o0Casw00B7x6o0Cauqo0B88ao0Casw00B7x6o0Casw00B779c0Cbitc0B779c0Cbvs00B6uao0Cbw1q0B77c40Cbiqk0B77c40Cbiqk0B77c40Cbiqk0B77c40Cbvp80B6udg0Cbvp80B6udg0Cbvp80B77c40Cbiqk0B77c40Cbiqk0B8n6s0C9cvs0B9d6w0C9cvs0B9d6w0C9px80B9d440C9cyk0B9d440C9cyk0B9d440C9cyk0B9d440C9cyk0B9d440C9px80B9d440C9cyk0B3lpg0Cf4d80B9d440C9cyk0B9d440C9cyk0B1c9440C8a2k0B"),
  ("Asia/Magadan", "603 600 660 720", "16bg7tsB37a05cCqi27w0D9et80C9d440D9et80C9d440D9et80C9eys0D9d6w0C9d1c0D9d1c0C9d1c0D9d1c0C9d1c0D9d1c0C9d1c0D9d1c0C9d1c0D9d1c0C9d1c0D9q000Ciq5g0B5reo0C3ljw0D9d1c0C9d1c0D9d1c0C9d1c0D9d1c0C9d1c0D9d1c0C9q000Dasw00C7x6o0Dasw00C7x6o0Dasw00C7x6o0Db5uo0C7k800Db5uo0C7k800Db5uo0C7x6o0Dasw00C7x6o0Dasw00C7x6o0Db5uo0C7k800Db5uo0C7k800Db5uo0C7k800Db5uo0C7x6o0Dasw00C7x6o0Dasw00C7x6o0Db5uo0C7k800D1vbzw0Bs39k0C"),
  ("Asia/Makassar", "478 480 540", "1ar6dn4B4u87w0C1w02k0B"),
  ("Asia/Manila", "-956 484 480 540", "wyyooBsjc9igCje0pc0D3wnw0C2kc5g0D22dp80C4d3ms0D2rx80Cbwlpg0D95jw0C6lv1g0D3jp80C"),
  ("Asia/Muscat", "234 240", "14217kgB"),
  ("Asia/Nicosia", "133 120 180", "15165koBrvhxygC9cyk0Bb42s0C7nuk0B8yas0C8zzw0B9q2s0C9et80B9b9g0C9cyk0B9q2s0C8zzw0B9d440C9cyk0B9d440C9cyk0B9d440C9cyk0B9d440C9px80B9d440C9cyk0B9d440C9cyk0B9d440C9cyk0B9d440C9cyk0B9d440C9cyk0B9d440C9px80B9d440C9cyk0B9d440C9cyk0B9d440C9cyk0B9d440C9cyk0B9d440C9cyk0B9q2s0C9cyk0B9d440C9cyk0B9d440Cat4c0B7x6o0Cb5uo0B7k800Cb5uo0B7k800Cb5uo0B7x6o0Casw00B7x6o0Casw00B7x6o0Cb5uo0B7k800Cb5uo0B7k800Cb5uo0B7k800Cb5uo0B7x6o0Casw00B7x6o0Casw00B7x6o0Cb5uo0B7k800Cb5uo0B7k800Cb5uo0B7x6o0Casw00B7x6o0Casw00B7x6o0Casw00B7x6o0Cb5uo0B7k800Cb5uo0B7k800Cb5uo0B7x6o0Casw00B7x6o0Casw00B7x6o0Cb5uo0B7k800Cb5uo0B7k800Cb5uo0B7x6o0Casw00B7x6o0Casw00B7x6o0Casw00B7x6o0Cb5uo0B7k800Cb5uo0B7k800Cb5uo0B7x6o0Casw00B7x6o0Casw00B7x6o0Cb5uo0B7k800Cb5uo0B7k800Cb5uo0B7k800Cb5uo0B7x6o0Casw00B7x6o0Casw00B"),
  ("Asia/Novokuznetsk", "349 360 420 480", "16beoxsB37bu5cCqi27w0D9et80C9d440D9et80C9d440D9et80C9eys0D9d6w0C9d1c0D9d1c0C9d1c0D9d1c0C9d1c0D9d1c0C9d1c0D9d1c0C9d1c0D9d1c0C9d1c0D9q000Ciq5g0B5reo0C3ljw0D9d1c0C9d1c0D9d1c0C9d1c0D9d1c0C9d1c0D9d1c0C9q000Dasw00C7x6o0Dasw00C7x6o0Dasw00C7x6o0Db5uo0C7k800Db5uo0C7k800Db5uo0C7x6o0Dasw00C7x6o0Dasw00C7x6o0Db5uo0C7k800Db5uo0C7k800Db5uo0C7k800Db5uo0C7x6o0Dasw00C7x6o0Dasw00Cj3440B7k800C"),
  ("Asia/Novosibirsk", "332 360 420 480", "14147qcB5hmbcsCqi27w0D9et80C9d440D9et80C9d440D9et80C9eys0D9d6w0C9d1c0D9d1c0C9d1c0D9d1c0C9d1c0D9d1c0C9d1c0D9d1c0C9d1c0D9d1c0C9d1c0D9q000Ciq5g0B5reo0C3ljw0D9d1c0C9d1c0D2vh00C6hn40B9d1c0C9d1c0B9d1c0C9d1c0B9q000Casw00B7x6o0Casw00B7x6o0Casw00B7x6o0Cb5uo0B7k800Cb5uo0B7k800Cb5uo0B7x6o0Casw00B7x6o0Casw00B7x6o0Cb5uo0B7k800Cb5uo0B7k800Cb5uo0B7k800Cb5uo0B7x6o0Casw00B7x6o0Casw00B7x6o0Cb5uo0B7k800C1vbzw0Bwrpg0C"),
  ("Asia/Omsk", "294 300 360 420", "13zk8tyB5j6d16Cqi27w0D9et80C9d440D9et80C9d440D9et80C9eys0D9d6w0C9d1c0D9d1c0C9d1c0D9d1c0C9d1c0D9d1c0C9d1c0D9d1c0C9d1c0D9d1c0C9d1c0D9q000Ciq5g0B5reo0C3ljw0D9d1c0C9d1c0D9d1c0C9d1c0D9d1c0C9d1c0D9d1c0C9q000Dasw00C7x6o0Dasw00C7x6o0Dasw00C7x6o0Db5uo0C7k800Db5uo0C7k800Db5uo0C7x6o0Dasw00C7x6o0Dasw00C7x6o0Db5uo0C7k800Db5uo0C7k800Db5uo0C7k800Db5uo0C7x6o0Dasw00C7x6o0Dasw00C7x6o0Db5uo0C7k800D1vbzw0C"),
  ("Asia/Oral", "205 180 300 360 240", "16bgq8sB37a16cCqi2540Ds6qk0C9d440D9et80C9eys0D9d6w0C9d1c0D9d1c0C9d1c0D9d1c0C9d1c0D9d1c0C9d1c0D9d1c0Ciq5g0E9d1c0C9q000E9d1c0C9d1c0E5reo0Ccyo00E9d1c0C9d1c0E9d1c0C9d1c0E9d1c0C9d1c0E9q000Casw00E7x6o0Casw00E7x6o0Casw00E7x6o0Cb5uo0E7k800Cb5uo0E7k800Cb5uo0E7x6o0Casw00E7x6o0Casw00E7x6o0C"),
  ("Asia/Phnom_Penh", "420 427 480 540", "x0bmzoB2isicmAgj25iuC15ct80D8so00A"),
  ("Asia/Pontianak", "437 450 540 480 420", "1ar6fi8B4tnu2wC1wkei0B1cx860D11jta0B74uc20Dcixam0E"),
  ("Asia/Pyongyang", "503 510 540", "xx8pssB1yh10cC1i2uzy0B1f4qo0C"),
  ("Asia/Qatar", "206 240 180", "14218vkBrctnrkC"),
  ("Asia/Qostanay", "254 240 300 360", "16bgnz0B37a0o4Cqi27w0Ds6qk0C9d440D9et80C9eys0D9d6w0C9d1c0D9d1c0C9d1c0D9d1c0C9d1c0D9d1c0C9d1c0D9d1c0C9d1c0D9d1c0C9d1c0D9q000Ciq5g0B5reo0C3ljw0D9d1c0C9d1c0D9d1c0C9d1c0D9d1c0C9d1c0D9d1c0C9q000Dasw00C7x6o0Dasw00C7x6o0Dasw00C7x6o0Db5uo0C7k800Db5uo0C7k800Db5uo0C7x6o0Dasw00C7x6o0Dasw00C7x6o0Daedjo0C"),
  ("Asia/Qyzylorda", "262 240 300 360", "16bgnmoB37a10gCqi27w0Ds6qk0C9d440D9et80C9eys0D9d6w0C9d1c0D9d1c0C9d1c0D9d1c0C9d1c0D9d1c0C9d1c0D9d1c0C9d1c0D9d1c0C9d1c0D9q000Cohhc0Dcyo00C9d1c0D9d1c0C9d1c0D9d1c0C9d1c0D9d1c0C9q000Dasw00C7x6o0Dasw00C7x6o0Dasw00C7x6o0Db5uo0C7k800Db5uo0C7k800Db5uo0C7x6o0Dasw00C7x6o0Dasw00C7x6o0D7osl00C"),
  ("Asia/Riyadh", "187 180", "1i91kfoB"),
  ("Asia/Sakhalin", "571 540 660 720 600", "wk9nzsBkvnarcCikvh40D9et80C9d440D9et80C9d440D9et80C9eys0D9d6w0C9d1c0D9d1c0C9d1c0D9d1c0C9d1c0D9d1c0C9d1c0D9d1c0C9d1c0D9d1c0C9d1c0D9q000Ciq5g0E5reo0C3ljw0D9d1c0C9d1c0D9d1c0C9d1c0D9d1c0C9d1c0D9d1c0C9q000Dasw00Ciq5g0E7x6o0Casw00E7x6o0Cb5uo0E7k800Cb5uo0E7k800Cb5uo0E7x6o0Casw00E7x6o0Casw00E7x6o0Cb5uo0E7k800Cb5uo0E7k800Cb5uo0E7k800Cb5uo0E7x6o0Casw00E7x6o0Casw00E7x6o0Cb5uo0E7k800C1vbzw0Eqnc40C"),
  ("Asia/Samarkand", "268 240 300 360", "16bgncnB37a1ahCqi27w0Ds6qk0C9d440D9et80C9eys0D9d6w0C9d1c0D9d1c0C9d1c0D9d1c0C9d1c0D9d1c0C9d1c0D9d1c0C9d1c0D9d1c0C9d1c0D9q000C9d1c0D9d1c0C"),
  ("Asia/Seoul", "508 510 540 600 570", "xx8pkoB1yh18gCj07fy0D5cik0Cae5g0D8a2k0Cae5g0D8bx80Cc8tg0D6h980C1bj6s0Bl3aq0E6j3w0Bd2g40E6u7w0Bb5xg0E776k0Bbiw40E776k0Bbiw40E776k0Bbiw40E776k0Bgrs40Cdfqxi0D7x6o0Casw00D7x6o0C"),
  ("Asia/Shanghai", "486 480 540", "u52vxlB9jeyxjC8sl80Basbpg0C6w2k0B7ves0Cbxjw0B4mqs0C1vduk0Bd4as0C75bw0Ba31g0Caaak0B9d440C7v980Bawo40C1dx80Bj9xpo0C6u7w0Basys0C7x3w0Bb5xg0C7k580Bb5xg0C7x3w0Basys0C7x3w0Basys0C7x3w0B"),
  ("Asia/Singapore", "415 420 440 450 540 480", "wg05urBeeb94dC4it32oD8n3jcE1v2p60Diy3ms0F"),
  ("Asia/Srednekolymsk", "615 600 660 720", "16bg7acB37a0osCqi27w0D9et80C9d440D9et80C9d440D9et80C9eys0D9d6w0C9d1c0D9d1c0C9d1c0D9d1c0C9d1c0D9d1c0C9d1c0D9d1c0C9d1c0D9d1c0C9d1c0D9q000Ciq5g0B5reo0C3ljw0D9d1c0C9d1c0D9d1c0C9d1c0D9d1c0C9d1c0D9d1c0C9q000Dasw00C7x6o0Dasw00C7x6o0Dasw00C7x6o0Db5uo0C7k800Db5uo0C7k800Db5uo0C7x6o0Dasw00C7x6o0Dasw00C7x6o0Db5uo0C7k800Db5uo0C7k800Db5uo0C7k800Db5uo0C7x6o0Dasw00C7x6o0Dasw00C7x6o0Db5uo0C7k800D1vbzw0C"),
  ("Asia/Taipei", "486 480 540", "rj5el4Blsd1m0C45slc0Bc51c0C75bw0Ba31g0Caaak0B9d440C7v980Bawo40C7v980Bawo40C7v980Bawo40C7v980B7tk40Cclmk0B7rpg0Cb07w0B7rpg0Cb07w0B7rpg0C9et80B9eys0C9et80B9d440C9et80B9d440C9et80B9d440C9et80Bcjxg0C69uk0Bci2s0C69uk0B6its40C9et80B9d440C9et80B1yf9g0C4qak0B"),
  ("Asia/Tashkent", "277 300 360 420", "16bgmx5B379yxzCqi27w0D9et80C9d440D9et80C9d440D9et80C9eys0D9d6w0C9d1c0D9d1c0C9d1c0D9d1c0C9d1c0D9d1c0C9d1c0D9d1c0C9d1c0D9d1c0C9d1c0D9q000Ciq5g0B"),
  ("Asia/Tbilisi", "179 180 240 300", "16bgrghBh4tjynCckinw0D9et80C9d440D9et80C9d440D9et80C9eys0D9d6w0C9d1c0D9d1c0C9d1c0D9d1c0C9d1c0D9d1c0C9d1c0D9d1c0C9d1c0D9d1c0C9d1c0D9q000Ciq5g0B9cvs0C9cyk0B9d440C9cyk0B9d440Cipzw0D9cyk0C9q2s0Dtivw0C7x9g0Dast80C7x9g0Db5rw0C7kas0Db5rw0C7kas0Db5rw0C7x9g0Dast80C7x9g0Dast80C7x9g0D4ofw0C6hn40B7k800C"),
  ("Asia/Tehran", "206 210 270 240 300", "1c49e88Blsvh0wCayg00D7z2q0E6uao0D51hc0Ba4uq0C5wvw0B9gtg0C9kd80B5ja5g0C7avw0B9d440C9gnw0B9b9g0C9gnw0B9b9g0C9gnw0B9b9g0C9gnw0B9b9g0C9gnw0B9d440C9gnw0B9b9g0C9gnw0B9b9g0C9gnw0B9b9g0C9gnw0B9d440C9gnw0B9b9g0C9gnw0B9b9g0C9gnw0B9b9g0C9gnw0B9d440C9gnw0B1av440C9gnw0B9d440C9gnw0B9b9g0C9gnw0B9b9g0C9gnw0B9b9g0C9gnw0B9d440C9gnw0B9b9g0C9gnw0B9b9g0C9gnw0B9b9g0C9gnw0B9d440C9gnw0B9b9g0C9gnw0B9b9g0C9gnw0B9b9g0C9gnw0B9d440C9gnw0B9b9g0C9gnw0B"),
  ("Asia/Thimphu", "359 330 360", "1igyj5gBkxymnoC"),
  ("Asia/Tokyo", "559 540 600", "ncu834Bvhjeo0C6uao0Bafxc0C8a5c0Bc8qo0C6hc00Bc8qo0C6hc00B"),
  ("Asia/Tomsk", "340 360 420 480", "141ik0pB5h7z2fCqi27w0D9et80C9d440D9et80C9d440D9et80C9eys0D9d6w0C9d1c0D9d1c0C9d1c0D9d1c0C9d1c0D9d1c0C9d1c0D9d1c0C9d1c0D9d1c0C9d1c0D9q000Ciq5g0B5reo0C3ljw0D9d1c0C9d1c0D9d1c0C9d1c0D9d1c0C9d1c0D9d1c0C9q000Dasw00C7x6o0Dasw00C7x6o0Dasw00C7x6o0Db5uo0C7k800Db5uo0C7k800Db5uo0C7x6o0D1leo0C97k40B7x6o0Casw00B7x6o0Cb5uo0B7k800Cb5uo0B7k800Cb5uo0B7k800Cb5uo0B7x6o0Casw00B7x6o0Casw00B7x6o0Cb5uo0B7k800C1vbzw0Btw040C"),
  ("Asia/Ulaanbaatar", "428 420 480 540", "wj53ykB11sncckC2qk2k0D9et80C9eys0D9cyk0C9d440D9cyk0C9d440D9cyk0C9d440D9cyk0C9d440D9cyk0C9d440D9cyk0C9d440D9px80C9d440D9cyk0C9d440D9cyk0C9d440D9cyk0C9d440D9cyk0C9d440D9cyk0C9q2s0D9cyk0C9d440D9cyk0C9d440D9cyk0C1ckdo0D7x3w0C9d440D9cyk0C9d440D9cyk0C9d440D9cyk0C9d440D9cyk0C9d440D9px80C4fio40D9ct00C9d9o0D9ct00C"),
  ("Asia/Urumqi", "350 360", "188c678B"),
  ("Asia/Ust-Nera", "573 480 540 720 660 600", "1415akaB5hl2yuCqi27w0D9eno0E9d440D9et80E9d440D9et80E9eys0D9d6w0E9d1c0D9d1c0E9d1c0D9d1c0E9d1c0D9d1c0E9d1c0D9d1c0E9d1c0D9d1c0E9d1c0D9q000Eiq5g0F5reo0E3ljw0D9d1c0E9d1c0D9d1c0E9d1c0D9d1c0E9d1c0D9d1c0E9q000Dasw00E7x6o0Dasw00E7x6o0Dasw00E7x6o0Db5uo0E7k800Db5uo0E7k800Db5uo0E7x6o0Dasw00E7x6o0Dasw00E7x6o0Db5uo0E7k800Db5uo0E7k800Db5uo0E7k800Db5uo0E7x6o0Dasw00E7x6o0Dasw00E7x6o0Db5uo0E7k800D8ql00E1mlho0F"),
  ("Asia/Vientiane", "410 427 420 480 540", "x0bnf4B2ishx6Cgj25iuD15ct80E8so00Ctmtk0D470yk0C"),
  ("Asia/Vladivostok", "528 540 600 660", "15jzfbxB3yqvf7Cqi27w0D9et80C9d440D9et80C9d440D9et80C9eys0D9d6w0C9d1c0D9d1c0C9d1c0D9d1c0C9d1c0D9d1c0C9d1c0D9d1c0C9d1c0D9d1c0C9d1c0D9q000Ciq5g0B5reo0C3ljw0D9d1c0C9d1c0D9d1c0C9d1c0D9d1c0C9d1c0D9d1c0C9q000Dasw00C7x6o0Dasw00C7x6o0Dasw00C7x6o0Db5uo0C7k800Db5uo0C7k800Db5uo0C7x6o0Dasw00C7x6o0Dasw00C7x6o0Db5uo0C7k800Db5uo0C7k800Db5uo0C7k800Db5uo0C7x6o0Dasw00C7x6o0Dasw00C7x6o0Db5uo0C7k800D1vbzw0C"),
  ("Asia/Yakutsk", "519 480 540 600", "1415d26B5hl0gyCqi27w0D9et80C9d440D9et80C9d440D9et80C9eys0D9d6w0C9d1c0D9d1c0C9d1c0D9d1c0C9d1c0D9d1c0C9d1c0D9d1c0C9d1c0D9d1c0C9d1c0D9q000Ciq5g0B5reo0C3ljw0D9d1c0C9d1c0D9d1c0C9d1c0D9d1c0C9d1c0D9d1c0C9q000Dasw00C7x6o0Dasw00C7x6o0Dasw00C7x6o0Db5uo0C7k800Db5uo0C7k800Db5uo0C7x6o0Dasw00C7x6o0Dasw00C7x6o0Db5uo0C7k800Db5uo0C7k800Db5uo0C7k800Db5uo0C7x6o0Dasw00C7x6o0Dasw00C7x6o0Db5uo0C7k800D1vbzw0C"),
  ("Asia/Yangon", "385 390 540", "14210ltBbnjp3bC1kh520B"),
  ("Asia/Yekaterinburg", "243 225 240 300 360", "128cduvB1kybx4C5pfyv5Dqi27w0E9et80D9d440E9et80D9d440E9et80D9eys0E9d6w0D9d1c0E9d1c0D9d1c0E9d1c0D9d1c0E9d1c0D9d1c0E9d1c0D9d1c0E9d1c0D9d1c0E9q000Diq5g0C5reo0D3ljw0E9d1c0D9d1c0E9d1c0D9d1c0E9d1c0D9d1c0E9d1c0D9q000Easw00D7x6o0Easw00D7x6o0Easw00D7x6o0Eb5uo0D7k800Eb5uo0D7k800Eb5uo0D7x6o0Easw00D7x6o0Easw00D7x6o0Eb5uo0D7k800Eb5uo0D7k800Eb5uo0D7k800Eb5uo0D7x6o0Easw00D7x6o0Easw00D7x6o0Eb5uo0D7k800E1vbzw0D"),
  ("Asia/Yerevan", "178 180 240 300", "16bgrigBh4tjwoCckinw0D9et80C9d440D9et80C9d440D9et80C9eys0D9d6w0C9d1c0D9d1c0C9d1c0D9d1c0C9d1c0D9d1c0C9d1c0D9d1c0C9d1c0D9d1c0C9d1c0D9q000Ciq5g0B9d1c0C9d1c0B9d1c0C9d1c0B9d1c0C9d1c0B9d1c0C11t180Dasw00C7x6o0Dasw00C7x6o0Db5uo0C7k800Db5uo0C7k800Db5uo0C7x6o0Dasw00C7x6o0Dasw00C7x6o0Db5uo0C7k800Db5uo0C7k800Db5uo0C7k800Db5uo0C7x6o0Dasw00C7x6o0Dasw00C7x6o0Db5uo0C7k800Db5uo0C"),
  ("Atlantic/Azores", "-103 -115 -120 -60 0 60", "l9phu8Bem124wC2bufw0D6zxg0C66800Dbq580C71s40Dbq580C71s40Dbq580C73ms0Dbq580C71s40Dbq580C1b2g00D8so00Cst1c0D8n400C9q000D902o0Ca2yo0D902o0Ca2yo0D8n400Cst1c0D8n400C9d1c0D9d1c0Csg2o0D9d1c0C902o0D9q000Ca2yo0D8n400C9d1c0D9d1c0C902o0D9q000Ca2yo0Db5uo0C51hc0Dbmio0C99c00D9ew00C88ao0D25p80E5reo0D3lpg0C779c0D1sqk0E6uao0D38qs0C6uao0D25p80E6hc00D38qs0C6uao0D25p80E6hc00D38qs0C8a5c0D9d1c0C9d9o0D9d1c0C9d1c0D9d1c0C9d1c0D9d1c0C9d1c0D9d1c0C9d1c0D9q000C9d1c0D9d1c0C9d1c0D9d1c0C9d1c0D9d1c0C9d1c0D9d1c0C9d1c0D9q000C9d1c0D9d1c0C9d1c0D9d1c0C9d1c0D9d1c0C9d1c0D9d1c0C9d1c0D9d1c0C9d1c0D9q000C9d1c0D9d1c0C9d1c0D9d1c0C9d1c0D9d1c0C9d1c0D8cavo0E9d1c0D9d1c0E9d1c0D9d1c0E9q000D9d1c0E9d1c0D9d1c0E9d1c0D9d1c0E9d1c0D9d1c0E9d1c0D9d1c0E9d1c0D9d1c0E9q000D9d1c0E9d1c0D9d1c0E9d1c0D4olg0E4ofw0F46000E571c0D9d1c0E9d1c0D9d1c0E9d1c0D9q000Easw00D7x6o0Easw00D7x6o0Easw00D7x6o0Eb5uo0D7k800Eb5uo0D7k800Eb5uo0D7x6o0Easw00D7x6o0Easw00D7x6o0Eb5uo0D7k800Eb5uo0D7k800Eb5uo0D7k800Eb5uo0D7x6o0Easw00D7x6o0Easw00D7x6o0Eb5uo0D7k800Eb5uo0D7k800Eb5uo0D7x6o0Easw00D7x6o0Easw00D7x6o0Easw00D7x6o0Eb5uo0D7k800Eb5uo0D7k800Eb5uo0D7x6o0Easw00D7x6o0Easw00D7x6o0Eb5uo0D7k800Eb5uo0D7k800Eb5uo0D7x6o0Easw00D7x6o0Easw00D7x6o0Easw00D7x6o0Eb5uo0D7k800Eb5uo0D7k800Eb5uo0D7x6o0Easw00D7x6o0Easw00D7x6o0Eb5uo0D7k800Eb5uo0D7k800Eb5uo0D7k800Eb5uo0D7x6o0Easw00D7x6o0Easw00D"),
  ("Atlantic/Bermuda", "-259 -199 -240 -180", "12mlzraB95jw0Aa16s0B7yyk0A5w74c0C69z5ruDeefw0C7x9g0Dbiqk0C6udg0Dc8nw0C6hes0Dc8nw0Cst440D64ak0Ccyqs0D5ed80Cdbpg0D5ed80Cdoo40D51ek0Cdoo40D51ek0Cdoo40D5ed80C1xuw40D7x3w0C94r9g0D9cyk0C9d440D9cyk0C9d440D9px80C905g0D9px80C9d440D9cyk0C9d440D9cyk0C9d440D9cyk0C9d440D9cyk0C9d440D9px80C905g0D9px80C9d440D9cyk0C9d440D9cyk0C9d440D9cyk0C8a840Dafuk0C8a840Dast80C7x9g0Dast80C7x9g0Dast80C8a840Dafuk0C8a840Dafuk0C8a840Dast80C7x9g0Dast80C7x9g0Dast80C8a840Dafuk0C8a840Dafuk0C8a840Dafuk0C8a840Dast80C7x9g0Dast80C7x9g0Dast80C8a840Dafuk0C8a840Dafuk0C8a840Dast80C7x9g0Dast80C7x9g0Dast80C6udg0Dc8nw0C6hes0Dc8nw0C6hes0Dc8nw0C6udg0Dc8nw0C6hes0Dc8nw0C6hes0Dc8nw0C6hes0Dc8nw0C6hes0Dc8nw0C6hes0Dc8nw0C6udg0Dc8nw0C6hes0Dc8nw0C6hes0Dc8nw0C6hes0Dc8nw0C6hes0Dc8nw0C6udg0Dc8nw0C6hes0Dc8nw0C6hes0Dc8nw0C6hes0Dc8nw0C6hes0Dc8nw0C6hes0Dc8nw0C6udg0Dc8nw0C6hes0Dc8nw0C6hes0Dc8nw0C6hes0Dc8nw0C6hes0Dc8nw0C6udg0Dc8nw0C6hes0Dc8nw0C6hes0Dc8nw0C6hes0Dc8nw0C6hes0Dc8nw0C6hes0Dc8nw0C"),
  ("Atlantic/Canary", "-62 -60 0 60", "156ojxsBctvupcChhq7s0D905g0C9d1c0D9d1c0C9d1c0D9d1c0C9d1c0D9d1c0C9d1c0D9q000C9d1c0D9d1c0C9d1c0D9d1c0C9d1c0D9d1c0C9d1c0D9d1c0C9d1c0D9d1c0C9d1c0D9q000C9d1c0D9d1c0C9d1c0D9d1c0C9d1c0D9d1c0C9d1c0D9d1c0C9d1c0D9d1c0C9q000Dasw00C7x6o0Dasw00C7x6o0Dasw00C7x6o0Db5uo0C7k800Db5uo0C7k800Db5uo0C7x6o0Dasw00C7x6o0Dasw00C7x6o0Db5uo0C7k800Db5uo0C7k800Db5uo0C7k800Db5uo0C7x6o0Dasw00C7x6o0Dasw00C7x6o0Db5uo0C7k800Db5uo0C7k800Db5uo0C7x6o0Dasw00C7x6o0Dasw00C7x6o0Dasw00C7x6o0Db5uo0C7k800Db5uo0C7k800Db5uo0C7x6o0Dasw00C7x6o0Dasw00C7x6o0Db5uo0C7k800Db5uo0C7k800Db5uo0C7x6o0Dasw00C7x6o0Dasw00C7x6o0Dasw00C7x6o0Db5uo0C7k800Db5uo0C7k800Db5uo0C7x6o0Dasw00C7x6o0Dasw00C7x6o0Db5uo0C7k800Db5uo0C7k800Db5uo0C7k800Db5uo0C7x6o0Dasw00C7x6o0Dasw00C"),
  ("Atlantic/Cape_Verde", "-94 -120 -60", "zvqjz4Bg06lc0C1mn180Bfpqwc0C"),
  ("Atlantic/Faroe", "-27 0 60", "xt3ec8B127keuwC9d1c0B9d1c0C9d1c0B9d1c0C9d1c0B9d1c0C9q000B9d1c0C9d1c0B9d1c0C9d1c0B9d1c0C9d1c0B9d1c0C9d1c0B9d1c0C9d1c0B9d1c0C9q000B9d1c0C9d1c0B9d1c0C9d1c0B9d1c0C9d1c0B9d1c0C9d1c0B9d1c0C9d1c0B9q000Casw00B7x6o0Casw00B7x6o0Casw00B7x6o0Cb5uo0B7k800Cb5uo0B7k800Cb5uo0B7x6o0Casw00B7x6o0Casw00B7x6o0Cb5uo0B7k800Cb5uo0B7k800Cb5uo0B7k800Cb5uo0B7x6o0Casw00B7x6o0Casw00B7x6o0Cb5uo0B7k800Cb5uo0B7k800Cb5uo0B7x6o0Casw00B7x6o0Casw00B7x6o0Casw00B7x6o0Cb5uo0B7k800Cb5uo0B7k800Cb5uo0B7x6o0Casw00B7x6o0Casw00B7x6o0Cb5uo0B7k800Cb5uo0B7k800Cb5uo0B7x6o0Casw00B7x6o0Casw00B7x6o0Casw00B7x6o0Cb5uo0B7k800Cb5uo0B7k800Cb5uo0B7x6o0Casw00B7x6o0Casw00B7x6o0Cb5uo0B7k800Cb5uo0B7k800Cb5uo0B7k800Cb5uo0B7x6o0Casw00B7x6o0Casw00B"),
  ("Atlantic/Madeira", "-68 -60 0 60", "zvqh74B2bufw0C6zxg0B66800Cbq580B71s40Cbq580B71s40Cbq580B73ms0Cbq580B71s40Cbq580B1b2g00C8so00Bst1c0C8n400B9q000C902o0Ba2yo0C902o0Ba2yo0C8n400Bst1c0C8n400B9d1c0C9d1c0Bsg2o0C9d1c0B902o0C9q000Ba2yo0C8n400B9d1c0C9d1c0B902o0C9q000Ba2yo0Cb5uo0B51hc0Cbmio0B99c00C9ew00B88ao0C25p80D5reo0C3lpg0B779c0C1sqk0D6uao0C38qs0B6uao0C25p80D6hc00C38qs0B6uao0C25p80D6hc00C38qs0B8a5c0C9d1c0B9d9o0C9d1c0B9d1c0C9d1c0B9d1c0C9d1c0B9d1c0C9d1c0B9d1c0C9q000B9d1c0C9d1c0B9d1c0C9d1c0B9d1c0C9d1c0B9d1c0C9d1c0B9d1c0C9q000B9d1c0C9d1c0B9d1c0C9d1c0B9d1c0C9d1c0B9d1c0C9d1c0B9d1c0C9d1c0B9d1c0C9q000B9d1c0C9d1c0B9d1c0C9d1c0B9d1c0C9d1c0B9d1c0C8cnuc0D902o0C9d1c0D9d1c0C9d1c0D9q000C9d1c0D9d1c0C9d1c0D9d440C9d1c0D9d1c0C9d1c0D9d1c0C9d1c0D9d1c0C9d1c0D9q000C9d1c0D9d1c0C9d1c0D9d1c0C9d1c0D9d1c0C9d1c0D9d1c0C9d1c0D9d1c0C9q000Dasw00C7x6o0Dasw00C7x6o0Dasw00C7x6o0Db5uo0C7k800Db5uo0C7k800Db5uo0C7x6o0Dasw00C7x6o0Dasw00C7x6o0Db5uo0C7k800Db5uo0C7k800Db5uo0C7k800Db5uo0C7x6o0Dasw00C7x6o0Dasw00C7x6o0Db5uo0C7k800Db5uo0C7k800Db5uo0C7x6o0Dasw00C7x6o0Dasw00C7x6o0Dasw00C7x6o0Db5uo0C7k800Db5uo0C7k800Db5uo0C7x6o0Dasw00C7x6o0Dasw00C7x6o0Db5uo0C7k800Db5uo0C7k800Db5uo0C7x6o0Dasw00C7x6o0Dasw00C7x6o0Dasw00C7x6o0Db5uo0C7k800Db5uo0C7k800Db5uo0C7x6o0Dasw00C7x6o0Dasw00C7x6o0Db5uo0C7k800Db5uo0C7k800Db5uo0C7k800Db5uo0C7x6o0Dasw00C7x6o0Dasw00C"),
  ("Atlantic/Reykjavik", "-88 -60 0", "xskyhsB4rpd9cCci2s0B69uk0Cdu840B4xp80Cdu840Bp7bw0C4w040B9bdzw0C9d6w0B64g40Ccyl80B64dc0Cclpc0B6hc00Cbvs00B6uao0Cbvs00B6uao0Cbvs00B6uao0Cc8qo0B6hc00Cc8qo0B8a5c0Cafxc0B8a5c0Cafxc0B8a5c0Casw00B7x6o0Cafxc0B8a5c0Casw00B8a5c0Cafxc0B8a5c0Cafxc0B8a5c0Cafxc0B8a5c0Cafxc0B8a5c0Casw00B8a5c0Cafxc0B8a5c0Cafxc0B8a5c0Cafxc0B8a5c0Cafxc0B8a5c0Cafxc0B8a5c0Casw00B8a5c0Cafxc0B8a5c0Cafxc0B8a5c0Cafxc0B8a5c0Cafxc0B8a5c0Casw00B8a5c0C"),
  ("Atlantic/South_Georgia", "-146 -120", "oegt6oB"),
  ("Atlantic/St_Helena", "-23 0", "1k8i254B"),
  ("Atlantic/Stanley", "-231 -240 -180 -120", "zze6gsBdbvxqcC8zzw0B9q2s0C8zzw0Ba31g0C8zzw0B9q2s0C8zzw0B9q2s0C8zzw0B9q2s0C4xp80Bl1pus0C7k580Db5rw0C77c40Dbiqk0Cid6s0B7kas0Cb5rw0B7kas0Cb5rw0B7kas0Cb5rw0B7kas0Cbiqk0B77c40Cbiqk0B7kas0Cb5rw0B7kas0Cb5rw0B7kas0Cb5rw0B7kas0Cb5rw0B7kas0Cbiqk0B7kas0Cb5rw0B7kas0Cb5rw0B7kas0Cb5rw0B7kas0Cb5rw0B7kas0Cb5xg0B77c40Cbvp80B6udg0Cbvp80B77c40Cbiqk0B77c40Cbiqk0B77c40Cbiqk0B77c40Cbiqk0B77c40Cbvp80B77c40Cbiqk0B77c40Cbiqk0B77c40C"),
  ("Australia/Adelaide", "554 540 570 630", "r1ysr8B27qdzwC97zyu0D49pc0Ccxfk00D4h400C9d1c0D9d1c0C9q000D902o0Ceeio00D64dc0Cclpc0D6hc00Cc8qo0D6hc00Cc8qo0D6hc00Cc8qo0D6uao0Cc8qo0D6hc00Cc8qo0D6hc00Cc8qo0D6hc00Cc8qo0D6hc00Cc8qo0D6hc00Cc8qo0D6uao0Cc8qo0D6hc00Cc8qo0D6hc00Cc8qo0D6hc00Cc8qo0D779c0Cb5uo0D7k800Cbitc0D7k800Cbitc0D779c0Cbitc0D779c0Cbitc0D6hc00Cc8qo0D7k800Cb5uo0D6uao0Cc8qo0D779c0Cbitc0D7k800Cb5uo0D7x6o0Casw00D7x6o0Casw00D7x6o0Casw00D7x6o0Cb5uo0D7k800Cb5uo0D7k800Cb5uo0D7x6o0Casw00D7x6o0Casw00D7x6o0Cb5uo0D7k800Cb5uo0D7x6o0Casw00D7k800Cb5uo0D8a5c0C9d1c0D9d1c0C9d1c0D9d1c0C9d1c0D9d1c0C9d1c0D9d1c0C9q000D9d1c0C9d1c0D9d1c0C9d1c0D9d1c0C9d1c0D9d1c0C9d1c0D9d1c0C9d1c0D9d1c0C9q000D9d1c0C9d1c0D9d1c0C9d1c0D9d1c0C9d1c0D9d1c0C9d1c0D9d1c0C9d1c0D9q000C9d1c0D9d1c0C9d1c0D9d1c0C9d1c0D9d1c0C9d1c0D9d1c0C9d1c0D9d1c0C9q000D9d1c0C9d1c0D9d1c0C9d1c0D9d1c0C9d1c0D9d1c0C9d1c0D9d1c0C9d1c0D9d1c0C9q000D9d1c0C9d1c0D9d1c0C9d1c0D"),
  ("Australia/Brisbane", "612 600 660", "r0dbewBbhbss8C49pc0Bcxfk00C4h400B9d1c0C9d1c0B9q000C902o0Beeio00C64dc0B97zuo0C6hc00Bc8qo0C6hc00Bc8qo0C6hc00B"),
  ("Australia/Broken_Hill", "566 600 540 570 630", "r1ys84Bt9nr0C1egqs0D97zyu0E49pc0Dcxfk00E4h400D9d1c0E9d1c0D9q000E902o0Deeio00E64dc0Dclpc0E6hc00Dc8qo0E6hc00Dc8qo0E6hc00Dc8qo0E6uao0Dc8qo0E6hc00Dc8qo0E6hc00Dc8qo0E6hc00Dc8qo0E6hc00Dc8qo0E6hc00Dc8qo0E8a5c0Dasw00E6hc00Dc8qo0E6hc00Dc8qo0E6hc00Dc8qo0E779c0Db5uo0E7k800Dbitc0E7k800Dbitc0E779c0Dbitc0E6hc00Dc8qo0E6hc00Dc8qo0E6hc00Dc8qo0E6uao0Dc8qo0E6hc00Dc8qo0E6hc00Dc8qo0E7x6o0Dasw00E7x6o0Dasw00E7x6o0Dasw00E7x6o0Db5uo0E7k800Db5uo0E7k800Db5uo0E7x6o0Dasw00E7x6o0Dasw00E7x6o0Db5uo0E7k800Db5uo0E7x6o0Dasw00E7k800Db5uo0E8a5c0D9d1c0E9d1c0D9d1c0E9d1c0D9d1c0E9d1c0D9d1c0E9d1c0D9q000E9d1c0D9d1c0E9d1c0D9d1c0E9d1c0D9d1c0E9d1c0D9d1c0E9d1c0D9d1c0E9d1c0D9q000E9d1c0D9d1c0E9d1c0D9d1c0E9d1c0D9d1c0E9d1c0D9d1c0E9d1c0D9d1c0E9q000D9d1c0E9d1c0D9d1c0E9d1c0D9d1c0E9d1c0D9d1c0E9d1c0D9d1c0E9d1c0D9q000E9d1c0D9d1c0E9d1c0D9d1c0E9d1c0D9d1c0E9d1c0D9d1c0E9d1c0D9d1c0E9d1c0D9q000E9d1c0D9d1c0E9d1c0D9d1c0E"),
  ("Australia/Darwin", "523 540 570 630", "r1yu6wB27qck8C97zyu0D49pc0Ccxfk00D4h400C9d1c0D9d1c0C9q000D902o0C"),
  ("Australia/Eucla", "515 525 585", "rhjyk0Bb05944C49pc0Bcxfk00C4h400B9d1c0C9d1c0Bgheyo0C6hc00B4ir9c0C6hc00B40r400C5eg00B7p9hc0C5reo0Bb5uo0C7x6o0Basw00C7x6o0B"),
  ("Australia/Hobart", "589 600 660", "rcvch0Bb03ee4C902o0Bb5uo0C6hc00Bc8qo0C6hc00Bbx2ao0C4h400B9d1c0C9d1c0B9q000C902o0Bc9tk00C9d1c0Basw00C6uao0Bbvs00C6uao0Bbvs00C779c0Bbvs00C64dc0Bclpc0C6hc00Bc8qo0C6hc00Bc8qo0C6hc00Bc8qo0C6uao0Bc8qo0C6hc00Bc8qo0C6hc00Bc8qo0C6hc00Bc8qo0C6hc00Bc8qo0C6hc00Bc8qo0C7x6o0Bb5uo0C7k800Bb5uo0C6hc00Bc8qo0C6hc00Bc8qo0C6hc00Bbvs00C7k800Bbitc0C7k800Bbitc0C779c0Bbitc0C779c0Bbitc0C7x6o0B9q000C902o0B9q000C902o0B9q000C902o0B9q000C902o0B9q000C9d1c0B9q000C902o0B9q000C902o0B9q000C902o0B9q000C902o0B7x6o0Casw00Ba2yo0C902o0B9q000C902o0B9q000C902o0B9q000C902o0B9q000C9d1c0B9d1c0C902o0Ba2yo0C9d1c0B9d1c0C9d1c0B9d1c0C9d1c0B9d1c0C9d1c0B9d1c0C9d1c0B9q000C9d1c0B9d1c0C9d1c0B9d1c0C9d1c0B9d1c0C9d1c0B9d1c0C9d1c0B9d1c0C9d1c0B9q000C9d1c0B9d1c0C9d1c0B9d1c0C9d1c0B9d1c0C9d1c0B9d1c0C9d1c0B9d1c0C9q000B9d1c0C9d1c0B9d1c0C9d1c0B9d1c0C9d1c0B9d1c0C9d1c0B9d1c0C9d1c0B9q000C9d1c0B9d1c0C9d1c0B9d1c0C9d1c0B9d1c0C9d1c0B9d1c0C9d1c0B9d1c0C9d1c0B9q000C9d1c0B9d1c0C9d1c0B9d1c0C"),
  ("Australia/Lindeman", "596 600 660", "r0dc5wBbhbs18C49pc0Bcxfk00C4h400B9d1c0C9d1c0B9q000C902o0Beeio00C64dc0B97zuo0C6hc00Bc8qo0C6hc00Bc8qo0C6hc00Bc8qo0C6uao0Bc8qo0C6hc00B"),
  ("Australia/Lord_Howe", "636 600 630 690 660", "r1yoykB18x8f0kCc8uu0D6u7w0Cc8tg0D6h980Cc8tg0D6h980Cc8tg0D6h980Cc8tg0E777y0Cb5w20E7k6m0Cbiuq0E7k6m0Cbiuq0E777y0Cbiuq0E6ham0Cc8s20E6ham0Cc8s20E6ham0Cc8s20E6u9a0Cc8s20E6ham0Cc8s20E6ham0Cc8s20E7x5a0Casxe0E7x5a0Casxe0E7x5a0Casxe0E7x5a0Cb5w20E7k6m0C7x820Easum0Cb5w20E7x5a0Casxe0E7x5a0Casxe0E7x5a0Cb5w20E7k6m0Cb5w20E7x5a0Casxe0E7k6m0Cb5w20E8a3y0C9d2q0E9czy0C9d2q0E9czy0C9d2q0E9czy0C9d2q0E9czy0C9q1e0E9czy0C9d2q0E9czy0C9d2q0E9czy0C9d2q0E9czy0C9d2q0E9czy0C9d2q0E9czy0C9q1e0E9czy0C9d2q0E9czy0C9d2q0E9czy0C9d2q0E9czy0C9d2q0E9czy0C9d2q0E9pym0C9d2q0E9czy0C9d2q0E9czy0C9d2q0E9czy0C9d2q0E9czy0C9d2q0E9czy0C9q1e0E9czy0C9d2q0E9czy0C9d2q0E9czy0C9d2q0E9czy0C9d2q0E9czy0C9d2q0E9czy0C9q1e0E9czy0C9d2q0E9czy0C9d2q0E"),
  ("Australia/Melbourne", "580 600 660", "r1yrkoBbfqcmgC49pc0Bcxfk00C4h400B9d1c0C9d1c0B9q000C902o0Beeio00C64dc0Bclpc0C6hc00Bc8qo0C6hc00Bc8qo0C6hc00Bc8qo0C6uao0Bc8qo0C6hc00Bc8qo0C6hc00Bc8qo0C6hc00Bc8qo0C6hc00Bc8qo0C6hc00Bc8qo0C6uao0Bc8qo0C6hc00Bc8qo0C6hc00Bc8qo0C6hc00Bc8qo0C779c0Bb5uo0C7k800Bb5uo0C7x6o0Bbitc0C779c0Bbitc0C779c0Bbitc0C6hc00Bc8qo0C6hc00Bc8qo0C6uao0Bc8qo0C6hc00Bc8qo0C7k800Bb5uo0C7x6o0Basw00C7x6o0Basw00C7x6o0Basw00C7x6o0Bb5uo0C7k800B7x6o0Casw00Bb5uo0C7x6o0Basw00C7x6o0Basw00C7x6o0Bb5uo0C7k800Bb5uo0C7x6o0Basw00C7k800Bb5uo0C8a5c0B9d1c0C9d1c0B9d1c0C9d1c0B9d1c0C9d1c0B9d1c0C9d1c0B9q000C9d1c0B9d1c0C9d1c0B9d1c0C9d1c0B9d1c0C9d1c0B9d1c0C9d1c0B9d1c0C9d1c0B9q000C9d1c0B9d1c0C9d1c0B9d1c0C9d1c0B9d1c0C9d1c0B9d1c0C9d1c0B9d1c0C9q000B9d1c0C9d1c0B9d1c0C9d1c0B9d1c0C9d1c0B9d1c0C9d1c0B9d1c0C9d1c0B9q000C9d1c0B9d1c0C9d1c0B9d1c0C9d1c0B9d1c0C9d1c0B9d1c0C9d1c0B9d1c0C9d1c0B9q000C9d1c0B9d1c0C9d1c0B9d1c0C"),
  ("Australia/Perth", "463 480 540", "rhk0ysBb058scC49pc0Bcxfk00C4h400B9d1c0C9d1c0Bgheyo0C6hc00B4ir9c0C6hc00B40r400C5eg00B7p9hc0C5reo0Bb5uo0C7x6o0Basw00C7x6o0B"),
  ("Australia/Sydney", "605 600 660", "r1yqf0Bbfqds4C49pc0Bcxfk00C4h400B9d1c0C9d1c0B9q000C902o0Beeio00C64dc0Bclpc0C6hc00Bc8qo0C6hc00Bc8qo0C6hc00Bc8qo0C6uao0Bc8qo0C6hc00Bc8qo0C6hc00Bc8qo0C6hc00Bc8qo0C6hc00Bc8qo0C6hc00Bc8qo0C8a5c0Basw00C6hc00Bc8qo0C6hc00Bc8qo0C6hc00Bc8qo0C779c0Bb5uo0C7k800Bbitc0C7k800Bbitc0C779c0Bbitc0C6hc00Bc8qo0C6hc00Bc8qo0C6hc00Bc8qo0C6uao0Bc8qo0C6hc00Bc8qo0C6hc00Bc8qo0C7x6o0Basw00C7x6o0Basw00C7x6o0Basw00C7x6o0Bb5uo0C7k800B7x6o0Casw00Bb5uo0C7x6o0Basw00C7x6o0Basw00C7x6o0Bb5uo0C7k800Bb5uo0C7x6o0Basw00C7k800Bb5uo0C8a5c0B9d1c0C9d1c0B9d1c0C9d1c0B9d1c0C9d1c0B9d1c0C9d1c0B9q000C9d1c0B9d1c0C9d1c0B9d1c0C9d1c0B9d1c0C9d1c0B9d1c0C9d1c0B9d1c0C9d1c0B9q000C9d1c0B9d1c0C9d1c0B9d1c0C9d1c0B9d1c0C9d1c0B9d1c0C9d1c0B9d1c0C9q000B9d1c0C9d1c0B9d1c0C9d1c0B9d1c0C9d1c0B9d1c0C9d1c0B9d1c0C9d1c0B9q000C9d1c0B9d1c0C9d1c0B9d1c0C9d1c0B9d1c0C9d1c0B9d1c0C9d1c0B9d1c0C9d1c0B9q000C9d1c0B9d1c0C9d1c0B9d1c0C"),
  ("CET", "60 120", "1253vj4B7ves0Aa4yw0B7x6o0Aasw00B7x6o0Ab8qdc0B1cm000A7k800B9q000A9d1c0B9d1c0A9d1c0B8l9c0Aggp1c0B902o0A9q000B9d1c0A9d1c0B9d1c0A9q000B902o0A9d1c0B9d1c0A9d1c0B9d1c0A9d1c0B9d1c0A9d1c0B9q000A9d1c0B9d1c0A9d1c0B9d1c0A9d1c0B9d1c0A9d1c0B9d1c0A9d1c0B9d1c0A9d1c0B9q000A9d1c0B9d1c0A9d1c0B9d1c0A9d1c0B9d1c0A9d1c0B9d1c0A9d1c0B9d1c0A9q000Basw00A7x6o0Basw00A7x6o0Basw00A7x6o0Bb5uo0A7k800Bb5uo0A7k800Bb5uo0A7x6o0Basw00A7x6o0Basw00A7x6o0Bb5uo0A7k800Bb5uo0A7k800Bb5uo0A7k800Bb5uo0A7x6o0Basw00A7x6o0Basw00A7x6o0Bb5uo0A7k800Bb5uo0A7k800Bb5uo0A7x6o0Basw00A7x6o0Basw00A7x6o0Basw00A7x6o0Bb5uo0A7k800Bb5uo0A7k800Bb5uo0A7x6o0Basw00A7x6o0Basw00A7x6o0Bb5uo0A7k800Bb5uo0A7k800Bb5uo0A7x6o0Basw00A7x6o0Basw00A7x6o0Basw00A7x6o0Bb5uo0A7k800Bb5uo0A7k800Bb5uo0A7x6o0Basw00A7x6o0Basw00A7x6o0Bb5uo0A7k800Bb5uo0A7k800Bb5uo0A7k800Bb5uo0A7x6o0Basw00A7x6o0Basw00A"),
  ("CST6CDT", "-360 -300", "13533b4Bast80A7x9g0Bast80Abmtus0B1wd180Ab9gdg0B9cyk0A9d440B9cyk0A9d440B9cyk0A9d440B9cyk0A9d440B9px80A9d440B9cyk0A9d440B9cyk0A3lpg0Bf4d80A64g40Bclmk0A9d440B9px80A905g0B9px80A9d440B9cyk0A9d440B9cyk0A9d440B9cyk0A9d440B9cyk0A9d440B9px80A905g0B9px80A9d440B9cyk0A9d440B9cyk0A9d440B9cyk0A8a840Bafuk0A8a840Bast80A7x9g0Bast80A7x9g0Bast80A8a840Bafuk0A8a840Bafuk0A8a840Bast80A7x9g0Bast80A7x9g0Bast80A8a840Bafuk0A8a840Bafuk0A8a840Bafuk0A8a840Bast80A7x9g0Bast80A7x9g0Bast80A8a840Bafuk0A8a840Bafuk0A8a840Bast80A7x9g0Bast80A7x9g0Bast80A6udg0Bc8nw0A6hes0Bc8nw0A6hes0Bc8nw0A6udg0Bc8nw0A6hes0Bc8nw0A6hes0Bc8nw0A6hes0Bc8nw0A6hes0Bc8nw0A6hes0Bc8nw0A6udg0Bc8nw0A6hes0Bc8nw0A6hes0Bc8nw0A6hes0Bc8nw0A6hes0Bc8nw0A6udg0Bc8nw0A6hes0Bc8nw0A6hes0Bc8nw0A6hes0Bc8nw0A6hes0Bc8nw0A6hes0Bc8nw0A6udg0Bc8nw0A6hes0Bc8nw0A6hes0Bc8nw0A6hes0Bc8nw0A6hes0Bc8nw0A6udg0Bc8nw0A6hes0Bc8nw0A6hes0Bc8nw0A6hes0Bc8nw0A6hes0Bc8nw0A6hes0Bc8nw0A"),
  ("EET", "120 180", "1xxrij4B902o0A9q000B9d1c0A9d1c0B9d1c0A9q000B902o0A9d1c0B9d1c0A9d1c0B9d1c0A9d1c0B9d1c0A9d1c0B9q000A9d1c0B9d1c0A9d1c0B9d1c0A9d1c0B9d1c0A9d1c0B9d1c0A9d1c0B9d1c0A9d1c0B9q000A9d1c0B9d1c0A9d1c0B9d1c0A9d1c0B9d1c0A9d1c0B9d1c0A9d1c0B9d1c0A9q000Basw00A7x6o0Basw00A7x6o0Basw00A7x6o0Bb5uo0A7k800Bb5uo0A7k800Bb5uo0A7x6o0Basw00A7x6o0Basw00A7x6o0Bb5uo0A7k800Bb5uo0A7k800Bb5uo0A7k800Bb5uo0A7x6o0Basw00A7x6o0Basw00A7x6o0Bb5uo0A7k800Bb5uo0A7k800Bb5uo0A7x6o0Basw00A7x6o0Basw00A7x6o0Basw00A7x6o0Bb5uo0A7k800Bb5uo0A7k800Bb5uo0A7x6o0Basw00A7x6o0Basw00A7x6o0Bb5uo0A7k800Bb5uo0A7k800Bb5uo0A7x6o0Basw00A7x6o0Basw00A7x6o0Basw00A7x6o0Bb5uo0A7k800Bb5uo0A7k800Bb5uo0A7x6o0Basw00A7x6o0Basw00A7x6o0Bb5uo0A7k800Bb5uo0A7k800Bb5uo0A7k800Bb5uo0A7x6o0Basw00A7x6o0Basw00A"),
  ("EST", "-300", ""),
  ("EST5EDT", "-300 -240", "13530j4Bast80A7x9g0Bast80Abmtus0B1wd180Ab9gdg0B9cyk0A9d440B9cyk0A9d440B9cyk0A9d440B9cyk0A9d440B9px80A9d440B9cyk0A9d440B9cyk0A3lpg0Bf4d80A64g40Bclmk0A9d440B9px80A905g0B9px80A9d440B9cyk0A9d440B9cyk0A9d440B9cyk0A9d440B9cyk0A9d440B9px80A905g0B9px80A9d440B9cyk0A9d440B9cyk0A9d440B9cyk0A8a840Bafuk0A8a840Bast80A7x9g0Bast80A7x9g0Bast80A8a840Bafuk0A8a840Bafuk0A8a840Bast80A7x9g0Bast80A7x9g0Bast80A8a840Bafuk0A8a840Bafuk0A8a840Bafuk0A8a840Bast80A7x9g0Bast80A7x9g0Bast80A8a840Bafuk0A8a840Bafuk0A8a840Bast80A7x9g0Bast80A7x9g0Bast80A6udg0Bc8nw0A6hes0Bc8nw0A6hes0Bc8nw0A6udg0Bc8nw0A6hes0Bc8nw0A6hes0Bc8nw0A6hes0Bc8nw0A6hes0Bc8nw0A6hes0Bc8nw0A6udg0Bc8nw0A6hes0Bc8nw0A6hes0Bc8nw0A6hes0Bc8nw0A6hes0Bc8nw0A6udg0Bc8nw0A6hes0Bc8nw0A6hes0Bc8nw0A6hes0Bc8nw0A6hes0Bc8nw0A6hes0Bc8nw0A6udg0Bc8nw0A6hes0Bc8nw0A6hes0Bc8nw0A6hes0Bc8nw0A6hes0Bc8nw0A6udg0Bc8nw0A6hes0Bc8nw0A6hes0Bc8nw0A6hes0Bc8nw0A6hes0Bc8nw0A6hes0Bc8nw0A"),
  ("Etc/GMT", "0", ""),
  ("Etc/GMT+1", "-60", ""),
  ("Etc/GMT+10", "-600", ""),
  ("Etc/GMT+11", "-660", ""),
  ("Etc/GMT+12", "-720", ""),
  ("Etc/GMT+2", "-120", ""),
  ("Etc/GMT+3", "-180", ""),
  ("Etc/GMT+4", "-240", ""),
  ("Etc/GMT+5", "-300", ""),
  ("Etc/GMT+6", "-360", ""),
  ("Etc/GMT+7", "-420", ""),
  ("Etc/GMT+8", "-480", ""),
  ("Etc/GMT+9", "-540", ""),
  ("Etc/GMT-1", "60", ""),
  ("Etc/GMT-10", "600", ""),
  ("Etc/GMT-11", "660", ""),
  ("Etc/GMT-12", "720", ""),
  ("Etc/GMT-13", "780", ""),
  ("Etc/GMT-14", "840", ""),
  ("Etc/GMT-2", "120", ""),
  ("Etc/GMT-3", "180", ""),
  ("Etc/GMT-4", "240", ""),
  ("Etc/GMT-5", "300", ""),
  ("Etc/GMT-6", "360", ""),
  ("Etc/GMT-7", "420", ""),
  ("Etc/GMT-8", "480", ""),
  ("Etc/GMT-9", "540", ""),
  ("Etc/UTC", "0", ""),
  ("Europe/Amsterdam", "20 80 120 60", "125406kB7v980Aa51o0B7x6o0Aa2yo0B9d1c0A9q000B902o0A9q000B902o0A9q000B902o0A9b6o0Ba2yo0Ac51c0B6l1c0A902o0B9q000Aci000B682o0Abgyo0B79400Abitc0B779c0Abmio0B7gio0Abbeo0B7eo00Abd9c0B7ctc0Abf400B7ayo0Abvs00B6uao0Abko00B7idc0Ab9k00B7gio0Abbeo0B7eo00Abf400B7ayo0Abtxc0B6w5b8Abitc0B779c0Abko00B7idc0Abd3s0C1aarpcD7k800C9q000D9d1c0C9d1c0D9d1c0C8l9c0Dggp1c0C902o0D9q000C9d1c0D9d1c0C9d1c0D9q000C902o0D9d1c0C9d1c0D9d1c0C9d1c0D9d1c0C9d1c0D9d1c0C9q000D9d1c0C9d1c0D9d1c0C9d1c0D9d1c0C9d1c0D9d1c0C9d1c0D9d1c0C9d1c0D9d1c0C9q000D9d1c0C9d1c0D9d1c0C9d1c0D9d1c0C9d1c0D9d1c0C9d1c0D9d1c0C9d1c0D9q000Casw00D7x6o0Casw00D7x6o0Casw00D7x6o0Cb5uo0D7k800Cb5uo0D7k800Cb5uo0D7x6o0Casw00D7x6o0Casw00D7x6o0Cb5uo0D7k800Cb5uo0D7k800Cb5uo0D7k800Cb5uo0D7x6o0Casw00D7x6o0Casw00D7x6o0Cb5uo0D7k800Cb5uo0D7k800Cb5uo0D7x6o0Casw00D7x6o0Casw00D7x6o0Casw00D7x6o0Cb5uo0D7k800Cb5uo0D7k800Cb5uo0D7x6o0Casw00D7x6o0Casw00D7x6o0Cb5uo0D7k800Cb5uo0D7k800Cb5uo0D7x6o0Casw00D7x6o0Casw00D7x6o0Casw00D7x6o0Cb5uo0D7k800Cb5uo0D7k800Cb5uo0D7x6o0Casw00D7x6o0Casw00D7x6o0Cb5uo0D7k800Cb5uo0D7k800Cb5uo0D7k800Cb5uo0D7x6o0Casw00D7x6o0Casw00D"),
  ("Europe/Andorra", "6 0 60 120", "u53i50Bnvgqy4Ck3ctg0D9d1c0C9d1c0D9d1c0C9d1c0D9d1c0C9d1c0D9d1c0C9d1c0D9d1c0C9d1c0D9q000C9d1c0D9d1c0C9d1c0D9d1c0C9d1c0D9d1c0C9d1c0D9d1c0C9d1c0D9d1c0C9q000Dasw00C7x6o0Dasw00C7x6o0Dasw00C7x6o0Db5uo0C7k800Db5uo0C7k800Db5uo0C7x6o0Dasw00C7x6o0Dasw00C7x6o0Db5uo0C7k800Db5uo0C7k800Db5uo0C7k800Db5uo0C7x6o0Dasw00C7x6o0Dasw00C7x6o0Db5uo0C7k800Db5uo0C7k800Db5uo0C7x6o0Dasw00C7x6o0Dasw00C7x6o0Dasw00C7x6o0Db5uo0C7k800Db5uo0C7k800Db5uo0C7x6o0Dasw00C7x6o0Dasw00C7x6o0Db5uo0C7k800Db5uo0C7k800Db5uo0C7x6o0Dasw00C7x6o0Dasw00C7x6o0Dasw00C7x6o0Db5uo0C7k800Db5uo0C7k800Db5uo0C7x6o0Dasw00C7x6o0Dasw00C7x6o0Db5uo0C7k800Db5uo0C7k800Db5uo0C7k800Db5uo0C7x6o0Dasw00C7x6o0Dasw00C"),
  ("Europe/Astrakhan", "192 180 240 300", "16bew6sB37bv8cCqi27w0D9et80C9d440D9et80C9d440D9et80C9eys0D9d6w0C9d1c0D9d1c0C9d1c0D9d1c0C9d1c0D9d1c0C9d1c0D9d1c0Ciq5g0B9d1c0C9q000B9d1c0Cs3400B9d1c0C9d1c0B9d1c0C9d1c0B9d1c0C9d1c0B9q000Casw00B7x6o0Casw00B7x6o0Casw00B7x6o0Cb5uo0B7k800Cb5uo0B7k800Cb5uo0B7x6o0Casw00B7x6o0Casw00B7x6o0Cb5uo0B7k800Cb5uo0B7k800Cb5uo0B7k800Cb5uo0B7x6o0Casw00B7x6o0Casw00B7x6o0Cb5uo0B7k800C1vbzw0Bqnc40C"),
  ("Europe/Athens", "95 120 180 60", "129mveoB8bjasgC2vmk0B4hiw40C16ik0Bscog0D7lx40B9o2k0D9eys0B4atzw0C6djw0Bbplus0Cbq800B71uw0C9d1c0B902o0C91xc0B9o5c0C905g0B9qgo0C9akg0B9iik0C99980B9dcg0C9d1c0B9d1c0C9d1c0B9d1c0C9d1c0B9d1c0C9q000B9d1c0C9d1c0B9d1c0C9d1c0B9d1c0C9d1c0B9d1c0C9d1c0B9d1c0C9d1c0B9d1c0C9q000B9d1c0C9d1c0B9d1c0C9d1c0B9d1c0C9d1c0B9d1c0C9d1c0B9d1c0C9d1c0B9q000Casw00B7x6o0Casw00B7x6o0Casw00B7x6o0Cb5uo0B7k800Cb5uo0B7k800Cb5uo0B7x6o0Casw00B7x6o0Casw00B7x6o0Cb5uo0B7k800Cb5uo0B7k800Cb5uo0B7k800Cb5uo0B7x6o0Casw00B7x6o0Casw00B7x6o0Cb5uo0B7k800Cb5uo0B7k800Cb5uo0B7x6o0Casw00B7x6o0Casw00B7x6o0Casw00B7x6o0Cb5uo0B7k800Cb5uo0B7k800Cb5uo0B7x6o0Casw00B7x6o0Casw00B7x6o0Cb5uo0B7k800Cb5uo0B7k800Cb5uo0B7x6o0Casw00B7x6o0Casw00B7x6o0Casw00B7x6o0Cb5uo0B7k800Cb5uo0B7k800Cb5uo0B7x6o0Casw00B7x6o0Casw00B7x6o0Cb5uo0B7k800Cb5uo0B7k800Cb5uo0B7k800Cb5uo0B7x6o0Casw00B7x6o0Casw00B"),
  ("Europe/Belgrade", "82 60 120", "l9p9agBtwhnkoCswz00B7k800C9q000B9d1c0C9d1c0Bb7pc0C6qlc0Bjl1hc0C9d1c0B9d1c0C9q000B9d1c0C9d1c0B9d1c0C9d1c0B9d1c0C9d1c0B9d1c0C9d1c0B9d1c0C9d1c0B9d1c0C9q000B9d1c0C9d1c0B9d1c0C9d1c0B9d1c0C9d1c0B9d1c0C9d1c0B9d1c0C9d1c0B9q000Casw00B7x6o0Casw00B7x6o0Casw00B7x6o0Cb5uo0B7k800Cb5uo0B7k800Cb5uo0B7x6o0Casw00B7x6o0Casw00B7x6o0Cb5uo0B7k800Cb5uo0B7k800Cb5uo0B7k800Cb5uo0B7x6o0Casw00B7x6o0Casw00B7x6o0Cb5uo0B7k800Cb5uo0B7k800Cb5uo0B7x6o0Casw00B7x6o0Casw00B7x6o0Casw00B7x6o0Cb5uo0B7k800Cb5uo0B7k800Cb5uo0B7x6o0Casw00B7x6o0Casw00B7x6o0Cb5uo0B7k800Cb5uo0B7k800Cb5uo0B7x6o0Casw00B7x6o0Casw00B7x6o0Casw00B7x6o0Cb5uo0B7k800Cb5uo0B7k800Cb5uo0B7x6o0Casw00B7x6o0Casw00B7x6o0Cb5uo0B7k800Cb5uo0B7k800Cb5uo0B7k800Cb5uo0B7x6o0Casw00B7x6o0Casw00B"),
  ("Europe/Berlin", "53 60 120 180", "q3gum0Bc1n0x4C7ves0Ba4yw0C7x6o0Basw00C7x6o0Bb8qdc0C1cm000B7k800C9q000B9d1c0C9d1c0B9d1c0C2o7w0D6bs00C2txg0B7k800C91xc0B9b9g0C1sqk0D2inw0C51k40Ba2yo0C8n400B9q000C902o0Bfx91c0C902o0B9d1c0C9d1c0B9d1c0C9d1c0B9d1c0C9d1c0B9d1c0C9q000B9d1c0C9d1c0B9d1c0C9d1c0B9d1c0C9d1c0B9d1c0C9d1c0B9d1c0C9d1c0B9d1c0C9q000B9d1c0C9d1c0B9d1c0C9d1c0B9d1c0C9d1c0B9d1c0C9d1c0B9d1c0C9d1c0B9q000Casw00B7x6o0Casw00B7x6o0Casw00B7x6o0Cb5uo0B7k800Cb5uo0B7k800Cb5uo0B7x6o0Casw00B7x6o0Casw00B7x6o0Cb5uo0B7k800Cb5uo0B7k800Cb5uo0B7k800Cb5uo0B7x6o0Casw00B7x6o0Casw00B7x6o0Cb5uo0B7k800Cb5uo0B7k800Cb5uo0B7x6o0Casw00B7x6o0Casw00B7x6o0Casw00B7x6o0Cb5uo0B7k800Cb5uo0B7k800Cb5uo0B7x6o0Casw00B7x6o0Casw00B7x6o0Cb5uo0B7k800Cb5uo0B7k800Cb5uo0B7x6o0Casw00B7x6o0Casw00B7x6o0Casw00B7x6o0Cb5uo0B7k800Cb5uo0B7k800Cb5uo0B7x6o0Casw00B7x6o0Casw00B7x6o0Cb5uo0B7k800Cb5uo0B7k800Cb5uo0B7k800Cb5uo0B7x6o0Casw00B7x6o0Casw00B"),
  ("Europe/Brussels", "18 0 60 120", "pm8jr4Bbr3hc0Crrx80D7vc00Ca4yw0D7x6o0Casw00D7x6o0C2wh40B5omo0Cb5uo0B6uao0Ccyo00B7ayo0Cbko00B7rmo0Ca2yo0Ba2yo0C8n400B902o0C9q000B9d1c0C9d1c0Ba2yo0C8n400B9q000C902o0Ba2yo0C90b00Ba2yo0C8n400B9q000C902o0Ba2yo0C8n400B9d1c0C9d1c0B902o0Ca2yo0B9d1c0C9d1c0B902o0C9q000Ba2yo0C8n400B9d1c0C9d1c0B902o0C9q000Ba2yo0Cb5uo0B51hc0C4deo0D1a36k0C7k800D9q000C9d1c0D8l9c0Ca4tc0D8l9c0Cclpc0D79400Cfwu800D902o0C9q000D9d1c0C9d1c0D9d1c0C9q000D902o0C9d1c0D9d1c0C9d1c0D9d1c0C9d1c0D9d1c0C9d1c0D9q000C9d1c0D9d1c0C9d1c0D9d1c0C9d1c0D9d1c0C9d1c0D9d1c0C9d1c0D9d1c0C9d1c0D9q000C9d1c0D9d1c0C9d1c0D9d1c0C9d1c0D9d1c0C9d1c0D9d1c0C9d1c0D9d1c0C9q000Dasw00C7x6o0Dasw00C7x6o0Dasw00C7x6o0Db5uo0C7k800Db5uo0C7k800Db5uo0C7x6o0Dasw00C7x6o0Dasw00C7x6o0Db5uo0C7k800Db5uo0C7k800Db5uo0C7k800Db5uo0C7x6o0Dasw00C7x6o0Dasw00C7x6o0Db5uo0C7k800Db5uo0C7k800Db5uo0C7x6o0Dasw00C7x6o0Dasw00C7x6o0Dasw00C7x6o0Db5uo0C7k800Db5uo0C7k800Db5uo0C7x6o0Dasw00C7x6o0Dasw00C7x6o0Db5uo0C7k800Db5uo0C7k800Db5uo0C7x6o0Dasw00C7x6o0Dasw00C7x6o0Dasw00C7x6o0Db5uo0C7k800Db5uo0C7k800Db5uo0C7x6o0Dasw00C7x6o0Dasw00C7x6o0Db5uo0C7k800Db5uo0C7k800Db5uo0C7k800Db5uo0C7x6o0Dasw00C7x6o0Dasw00C"),
  ("Europe/Bucharest", "104 120 180", "1a37w94Bfj8m0C6w5c0B9d1c0C9d1c0B9q000C9d1c0B9d1c0C9d1c0B9d1c0C9d1c0B9d1c0C9d1c0B9d1c0C9d1c0B9d1c0C9d1c0Bkp0dc0C6h980B9q000C905g0B9d6w0C9d1c0B9d1c0C9d1c0B9d1c0C9d1c0B9d1c0C9q000B9d1c0C9d1c0B9d1c0C9d1c0B9d1c0C9d1c0B9d1c0C9d1c0B9d1c0C9d1c0B9d1c0C9q000B9cvs0C9d1c0B9d1c0C9d1c0B9d1c0C9d1c0B9d1c0C9cyk0B9d440C9cyk0B9q2s0Cast80B7xhs0Casw00B7x6o0Casw00B7x6o0Cb5uo0B7k800Cb5uo0B7k800Cb5uo0B7x6o0Casw00B7x6o0Casw00B7x6o0Cb5uo0B7k800Cb5uo0B7k800Cb5uo0B7k800Cb5uo0B7x6o0Casw00B7x6o0Casw00B7x6o0Cb5uo0B7k800Cb5uo0B7k800Cb5uo0B7x6o0Casw00B7x6o0Casw00B7x6o0Casw00B7x6o0Cb5uo0B7k800Cb5uo0B7k800Cb5uo0B7x6o0Casw00B7x6o0Casw00B7x6o0Cb5uo0B7k800Cb5uo0B7k800Cb5uo0B7x6o0Casw00B7x6o0Casw00B7x6o0Casw00B7x6o0Cb5uo0B7k800Cb5uo0B7k800Cb5uo0B7x6o0Casw00B7x6o0Casw00B7x6o0Cb5uo0B7k800Cb5uo0B7k800Cb5uo0B7k800Cb5uo0B7x6o0Casw00B7x6o0Casw00B"),
  ("Europe/Budapest", "76 60 120", "ou3hjwBdb0dz8C7ves0Ba4yw0C7x6o0Basw00C7x6o0Bauqo0C7vc00Bafxc0C8n400Baq1x00Cthcc0B7k800C9q000B9d1c0C9d1c0Bawd00C9eys0B7pxk0C9rrw0B9b9g0C9d1c0B9d1c0C9d1c0B9q000C902o0B2f4vs0C6u7w0Bbw0c0C6uao0Bclpc0C64dc0Bclpc0C64dc0Bbr3bs0C902o0B9d1c0C9d1c0B9d1c0C9d1c0B9d1c0C9d1c0B9d6w0C9q000B9d1c0C9d1c0B9d1c0C9d1c0B9d1c0C9d1c0B9d1c0C9d1c0B9d1c0C9d1c0B9d1c0C9q000B9d1c0C9d1c0B9d1c0C9d1c0B9d1c0C9d1c0B9d1c0C9d1c0B9d1c0C9d1c0B9q000Casw00B7x6o0Casw00B7x6o0Casw00B7x6o0Cb5uo0B7k800Cb5uo0B7k800Cb5uo0B7x6o0Casw00B7x6o0Casw00B7x6o0Cb5uo0B7k800Cb5uo0B7k800Cb5uo0B7k800Cb5uo0B7x6o0Casw00B7x6o0Casw00B7x6o0Cb5uo0B7k800Cb5uo0B7k800Cb5uo0B7x6o0Casw00B7x6o0Casw00B7x6o0Casw00B7x6o0Cb5uo0B7k800Cb5uo0B7k800Cb5uo0B7x6o0Casw00B7x6o0Casw00B7x6o0Cb5uo0B7k800Cb5uo0B7k800Cb5uo0B7x6o0Casw00B7x6o0Casw00B7x6o0Casw00B7x6o0Cb5uo0B7k800Cb5uo0B7k800Cb5uo0B7x6o0Casw00B7x6o0Casw00B7x6o0Cb5uo0B7k800Cb5uo0B7k800Cb5uo0B7k800Cb5uo0B7x6o0Casw00B7x6o0Casw00B"),
  ("Europe/Chisinau", "115 104 120 180 60 240", "132sufgB70f1toCfj8m0D6w5c0C9d1c0D9d1c0C9q000D9d1c0C9d1c0D9d1c0C9d1c0D9d1c0C9d1c0D9d1c0C9d1c0D9d1c0C9d1c0D9d1c0Cgeqo0Dha580Coc8g0E7k800C9q000E9d1c0C7cl00Dj3pbw0F9et80D9d440F9et80D9d440F9et80D9eys0F9d6w0D9d1c0F9d1c0D9d1c0F9d1c0D9d1c0F9d1c0D9d1c0F9d1c0D9d1c0F9d1c0D9d1c0F25p80D7kdk0C9d1c0D9d1c0C9cvs0D9cyk0C9d440D9cyk0C9d440D9cyk0C9d440D9cyk0C9q2s0Dast80C7xf00Dasw00C7x6o0Dasw00C7x6o0Db5uo0C7k800Db5uo0C7k800Db5uo0C7x6o0Dasw00C7x6o0Dasw00C7x6o0Db5uo0C7k800Db5uo0C7k800Db5uo0C7k800Db5uo0C7x6o0Dasw00C7x6o0Dasw00C7x6o0Db5uo0C7k800Db5uo0C7k800Db5uo0C7x6o0Dasw00C7x6o0Dasw00C7x6o0Dasw00C7x6o0Db5uo0C7k800Db5uo0C7k800Db5uo0C7x6o0Dasw00C7x6o0Dasw00C7x6o0Db5uo0C7k800Db5uo0C7k800Db5uo0C7x6o0Dasw00C7x6o0Dasw00C7x6o0Dasw00C7x6o0Db5uo0C7k800Db5uo0C7k800Db5uo0C7x6o0Dasw00C7x6o0Dasw00C7x6o0Db5uo0C7k800Db5uo0C7k800Db5uo0C7k800Db5uo0C7x6o0Dasw00C7x6o0Dasw00C"),
  ("Europe/Copenhagen", "50 60 120", "qhm438Bbo7orwC75bw0Bcbs2w0C1aco80B7k800C9q000B9d1c0C9d1c0B9d1c0C6y000Bdbmo0C6bs00Bclpc0C51hc0Be1k00C4oio0Bgiutc0C902o0B9d1c0C9d1c0B9d1c0C9d1c0B9d1c0C9d1c0B9d1c0C9q000B9d1c0C9d1c0B9d1c0C9d1c0B9d1c0C9d1c0B9d1c0C9d1c0B9d1c0C9d1c0B9d1c0C9q000B9d1c0C9d1c0B9d1c0C9d1c0B9d1c0C9d1c0B9d1c0C9d1c0B9d1c0C9d1c0B9q000Casw00B7x6o0Casw00B7x6o0Casw00B7x6o0Cb5uo0B7k800Cb5uo0B7k800Cb5uo0B7x6o0Casw00B7x6o0Casw00B7x6o0Cb5uo0B7k800Cb5uo0B7k800Cb5uo0B7k800Cb5uo0B7x6o0Casw00B7x6o0Casw00B7x6o0Cb5uo0B7k800Cb5uo0B7k800Cb5uo0B7x6o0Casw00B7x6o0Casw00B7x6o0Casw00B7x6o0Cb5uo0B7k800Cb5uo0B7k800Cb5uo0B7x6o0Casw00B7x6o0Casw00B7x6o0Cb5uo0B7k800Cb5uo0B7k800Cb5uo0B7x6o0Casw00B7x6o0Casw00B7x6o0Casw00B7x6o0Cb5uo0B7k800Cb5uo0B7k800Cb5uo0B7x6o0Casw00B7x6o0Casw00B7x6o0Cb5uo0B7k800Cb5uo0B7k800Cb5uo0B7k800Cb5uo0B7x6o0Casw00B7x6o0Casw00B"),
  ("Europe/Dublin", "-25 35 0 60", "126595dB6uao0C9pytrD8c000C9o5c0D9ruo0C9b6o0D9ew00C9b6o0Dauqo0C88ao0D9ew00C8y800Da2yo0Ca2yo0D7k800Casw00D8a5c0Casw00D8n400Ca2yo0D8n400C9q000D902o0Cafxc0D8n400Ca2yo0D8n400C9q000D902o0Ca2yo0D8n400Ca2yo0D8n400C9q000D9d1c0Ca2yo0D8n400C9q000D902o0Ca2yo0D8n400Ca2yo0D8n400C9q000D902o0Ca2yo0Db5uo0C51hc0D3g8800C8a5c0Dbvs00C8n400Da2yo0C7x6o0Dasw00C8n400D9q000C902o0D9q000C9d1c0D9q000C902o0D8n400C9q000D902o0Ca2yo0D8n400Cafxc0D8n400C9q000D902o0Ca2yo0D8n400Ca2yo0D8n400C9q000D902o0C902o0Db5uo0C7k800Db5uo0C7x6o0Dasw00C7k800Db5uo0C7k800Db5uo0C7k800Db5uo0C7k800Dbitc0C5reo0D1xhuo0C779c0Dbitc0C779c0Dbitc0C779c0Dbitc0C779c0Dbitc0C7k800Db5uo0C7k800Db5uo0C7k800Dbitc0C779c0Dbitc0C779c0Dbitc0C7x3w0Dasw00C7x6o0Dasw00C7x6o0Dasw00C7x6o0Db5uo0C7x6o0Dasw00C7x6o0Dasw00C7x6o0Dasw00C7x6o0Dasw00C7x6o0Db5uo0C7k800Db5uo0C7x6o0Dasw00C7x6o0Dasw00C7x6o0Dasw00C7x6o0Dasw00C7x6o0Dasw00C8a5c0Dasw00C7x6o0Dasw00C7x6o0Dasw00C7x6o0Db5uo0C7k800Db5uo0C7k800Db5uo0C7x6o0Dasw00C7x6o0Dasw00C7x6o0Db5uo0C7k800Db5uo0C7k800Db5uo0C7k800Db5uo0C7x6o0Dasw00C7x6o0Dasw00C7x6o0Db5uo0C7k800Db5uo0C7k800Db5uo0C7x6o0Dasw00C7x6o0Dasw00C7x6o0Dasw00C7x6o0Db5uo0C7k800Db5uo0C7k800Db5uo0C7x6o0Dasw00C7x6o0Dasw00C7x6o0Db5uo0C7k800Db5uo0C7k800Db5uo0C7x6o0Dasw00C7x6o0Dasw00C7x6o0Dasw00C7x6o0Db5uo0C7k800Db5uo0C7k800Db5uo0C7x6o0Dasw00C7x6o0Dasw00C7x6o0Db5uo0C7k800Db5uo0C7k800Db5uo0C7k800Db5uo0C7x6o0Dasw00C7x6o0Dasw00C"),
  ("Europe/Gibraltar", "-21 0 60 120", "jhk4qsBiol38cC6uao0B9q000C8c000B9o5c0C9ruo0B9b6o0C9ew00B9b6o0Cauqo0B88ao0C9ew00B8y800Ca2yo0Ba2yo0C7k800Basw00C8a5c0Basw00C8n400Ba2yo0C8n400B9q000C902o0Bafxc0C8n400Ba2yo0C8n400B9q000C902o0Ba2yo0C8n400Ba2yo0C8n400B9q000C9d1c0Ba2yo0C8n400B9q000C902o0Ba2yo0C8n400Ba2yo0C8n400B9q000C902o0Ba2yo0Cb5uo0B51hc0Cmbmk0D51hc0Cc8qo0D6hc00Cc8qo0D6uao0Cbvs00D8n400Ca4tc0D5clc0C4bms0B9q000C902o0B8a5c0C1frw0D64dc0C4bms0B6uao0Cbvs00B7x6o0Casw00B8n400C9q000B902o0C9q000B9d1c0C9q000B902o0C8n400B9q000C902o0Ba2yo0C8n400Bafxc0C8n400B9q000Cd0tp80D9d1c0C9d1c0D9d1c0C9d1c0D9q000C9d1c0D9d1c0C9d1c0D9d1c0C9d1c0D9d1c0C9d1c0D9d1c0C9d1c0D9d1c0C9d1c0D9q000C9d1c0D9d1c0C9d1c0D9d1c0C9d1c0D9d1c0C9d1c0D9d1c0C9d1c0D9d1c0C9q000Dasw00C7x6o0Dasw00C7x6o0Dasw00C7x6o0Db5uo0C7k800Db5uo0C7k800Db5uo0C7x6o0Dasw00C7x6o0Dasw00C7x6o0Db5uo0C7k800Db5uo0C7k800Db5uo0C7k800Db5uo0C7x6o0Dasw00C7x6o0Dasw00C7x6o0Db5uo0C7k800Db5uo0C7k800Db5uo0C7x6o0Dasw00C7x6o0Dasw00C7x6o0Dasw00C7x6o0Db5uo0C7k800Db5uo0C7k800Db5uo0C7x6o0Dasw00C7x6o0Dasw00C7x6o0Db5uo0C7k800Db5uo0C7k800Db5uo0C7x6o0Dasw00C7x6o0Dasw00C7x6o0Dasw00C7x6o0Db5uo0C7k800Db5uo0C7k800Db5uo0C7x6o0Dasw00C7x6o0Dasw00C7x6o0Db5uo0C7k800Db5uo0C7k800Db5uo0C7k800Db5uo0C7x6o0Dasw00C7x6o0Dasw00C"),
  ("Europe/Guernsey", "-10 0 60 120", "10n7aw1B1ixx33C6uao0B9q000C8c000B9o5c0C9ruo0B9b6o0C9ew00B9b6o0Cauqo0B88ao0C9ew00B8y800Ca2yo0Ba2yo0C7k800Basw00C8a5c0Basw00C8n400Ba2yo0C8n400B9q000C902o0Bafxc0C8n400Ba2yo0C8n400B9q000C902o0Ba2yo0C8n400Ba2yo0C8n400B9q000C9d1c0Ba2yo0C8n400B9q000C902o0Ba2yo0C8n400Ba2yo0C8n400B9q000C902o0Ba2yo0Cb5uo0B51hc0C6kt00D17vs80C7k800D9q000C9d1c0D9d1c0C9d1c0D5clc0C4bms0B9q000C902o0B8a5c0C1frw0D64dc0C4bms0B6uao0Cbvs00B7x6o0Casw00B8n400C9q000B902o0C9q000B9d1c0C9q000B902o0C8n400B9q000C902o0Ba2yo0C8n400Bafxc0C8n400B9q000C902o0Ba2yo0C8n400Ba2yo0C8n400B9q000C902o0B902o0Cb5uo0B7k800Cb5uo0B7x6o0Casw00B7k800Cb5uo0B7k800Cb5uo0B7k800Cb5uo0B7k800Cbitc0B5reo0C1xhuo0B779c0Cbitc0B779c0Cbitc0B779c0Cbitc0B779c0Cbitc0B7k800Cb5uo0B7k800Cb5uo0B7k800Cbitc0B779c0Cbitc0B779c0Cbitc0B7x3w0Casw00B7x6o0Casw00B7x6o0Casw00B7x6o0Cb5uo0B7x6o0Casw00B7x6o0Casw00B7x6o0Casw00B7x6o0Casw00B7x6o0Cb5uo0B7k800Cb5uo0B7x6o0Casw00B7x6o0Casw00B7x6o0Casw00B7x6o0Casw00B7x6o0Casw00B8a5c0Casw00B7x6o0Casw00B7x6o0Casw00B7x6o0Cb5uo0B7k800Cb5uo0B7k800Cb5uo0B7x6o0Casw00B7x6o0Casw00B7x6o0Cb5uo0B7k800Cb5uo0B7k800Cb5uo0B7k800Cb5uo0B7x6o0Casw00B7x6o0Casw00B7x6o0Cb5uo0B7k800Cb5uo0B7k800Cb5uo0B7x6o0Casw00B7x6o0Casw00B7x6o0Casw00B7x6o0Cb5uo0B7k800Cb5uo0B7k800Cb5uo0B7x6o0Casw00B7x6o0Casw00B7x6o0Cb5uo0B7k800Cb5uo0B7k800Cb5uo0B7x6o0Casw00B7x6o0Casw00B7x6o0Casw00B7x6o0Cb5uo0B7k800Cb5uo0B7k800Cb5uo0B7x6o0Casw00B7x6o0Casw00B7x6o0Cb5uo0B7k800Cb5uo0B7k800Cb5uo0B7k800Cb5uo0B7x6o0Casw00B7x6o0Casw00B"),
  ("Europe/Helsinki", "100 120 180", "14r1dsrBax3tqdC9gqo0Bk31s80C9d1c0B9d1c0C9d1c0B9d440C9d1c0B9d1c0C9q000B9d1c0C9d1c0B9d1c0C9d1c0B9d1c0C9d1c0B9d1c0C9d1c0B9d1c0C9d1c0B9d1c0C9q000B9d1c0C9d1c0B9d1c0C9d1c0B9d1c0C9d1c0B9d1c0C9d1c0B9d1c0C9d1c0B9q000Casw00B7x6o0Casw00B7x6o0Casw00B7x6o0Cb5uo0B7k800Cb5uo0B7k800Cb5uo0B7x6o0Casw00B7x6o0Casw00B7x6o0Cb5uo0B7k800Cb5uo0B7k800Cb5uo0B7k800Cb5uo0B7x6o0Casw00B7x6o0Casw00B7x6o0Cb5uo0B7k800Cb5uo0B7k800Cb5uo0B7x6o0Casw00B7x6o0Casw00B7x6o0Casw00B7x6o0Cb5uo0B7k800Cb5uo0B7k800Cb5uo0B7x6o0Casw00B7x6o0Casw00B7x6o0Cb5uo0B7k800Cb5uo0B7k800Cb5uo0B7x6o0Casw00B7x6o0Casw00B7x6o0Casw00B7x6o0Cb5uo0B7k800Cb5uo0B7k800Cb5uo0B7x6o0Casw00B7x6o0Casw00B7x6o0Cb5uo0B7k800Cb5uo0B7k800Cb5uo0B7k800Cb5uo0B7x6o0Casw00B7x6o0Casw00B"),
  ("Europe/Isle_of_Man", "-18 0 60 120", "kvgf8zBhaosq5C6uao0B9q000C8c000B9o5c0C9ruo0B9b6o0C9ew00B9b6o0Cauqo0B88ao0C9ew00B8y800Ca2yo0Ba2yo0C7k800Basw00C8a5c0Basw00C8n400Ba2yo0C8n400B9q000C902o0Bafxc0C8n400Ba2yo0C8n400B9q000C902o0Ba2yo0C8n400Ba2yo0C8n400B9q000C9d1c0Ba2yo0C8n400B9q000C902o0Ba2yo0C8n400Ba2yo0C8n400B9q000C902o0Ba2yo0Cb5uo0B51hc0Cmbmk0D51hc0Cc8qo0D6hc00Cc8qo0D6uao0Cbvs00D8n400Ca4tc0D5clc0C4bms0B9q000C902o0B8a5c0C1frw0D64dc0C4bms0B6uao0Cbvs00B7x6o0Casw00B8n400C9q000B902o0C9q000B9d1c0C9q000B902o0C8n400B9q000C902o0Ba2yo0C8n400Bafxc0C8n400B9q000C902o0Ba2yo0C8n400Ba2yo0C8n400B9q000C902o0B902o0Cb5uo0B7k800Cb5uo0B7x6o0Casw00B7k800Cb5uo0B7k800Cb5uo0B7k800Cb5uo0B7k800Cbitc0B5reo0C1xhuo0B779c0Cbitc0B779c0Cbitc0B779c0Cbitc0B779c0Cbitc0B7k800Cb5uo0B7k800Cb5uo0B7k800Cbitc0B779c0Cbitc0B779c0Cbitc0B7x3w0Casw00B7x6o0Casw00B7x6o0Casw00B7x6o0Cb5uo0B7x6o0Casw00B7x6o0Casw00B7x6o0Casw00B7x6o0Casw00B7x6o0Cb5uo0B7k800Cb5uo0B7x6o0Casw00B7x6o0Casw00B7x6o0Casw00B7x6o0Casw00B7x6o0Casw00B8a5c0Casw00B7x6o0Casw00B7x6o0Casw00B7x6o0Cb5uo0B7k800Cb5uo0B7k800Cb5uo0B7x6o0Casw00B7x6o0Casw00B7x6o0Cb5uo0B7k800Cb5uo0B7k800Cb5uo0B7k800Cb5uo0B7x6o0Casw00B7x6o0Casw00B7x6o0Cb5uo0B7k800Cb5uo0B7k800Cb5uo0B7x6o0Casw00B7x6o0Casw00B7x6o0Casw00B7x6o0Cb5uo0B7k800Cb5uo0B7k800Cb5uo0B7x6o0Casw00B7x6o0Casw00B7x6o0Cb5uo0B7k800Cb5uo0B7k800Cb5uo0B7x6o0Casw00B7x6o0Casw00B7x6o0Casw00B7x6o0Cb5uo0B7k800Cb5uo0B7k800Cb5uo0B7x6o0Casw00B7x6o0Casw00B7x6o0Cb5uo0B7k800Cb5uo0B7k800Cb5uo0B7k800Cb5uo0B7x6o0Casw00B7x6o0Casw00B"),
  ("Europe/Istanbul", "116 117 120 180 240", "j6jnq0Bg1oam8C2wvx6wD7v980C1tjc40Daunw0C88dg0D9et80C8yas0Da2vw0Ctzpg0D79180Cawo40D7v980C7p4040D4zjw0C2vs40Df4d80C9vms0D1u5ek0Cc5440D69uk0Cacas0D8n180Ca31g0D8n180C9q2s0D8zzw0Ca31g0D8zzw0Ca31g0D8n180C5md9g0Do9zw0Ca6qs0D75bw0C4iwyw0D7x6o0C7kas0Db5rw0C75hg0Dbkl80C77c40Dbiqk0C7x9g0Da2vw0C8n6s0D2s3mk0E38l80Dkdes0C8qtc0D8a5c0C9ew00D9d1c0C9d1c0D9d1c0C9d1c0D9d1c0C9d1c0D9d1c0C9d1c0D9q000C9d1c0D9d1c0C9d1c0D9d1c0C9d1c0D9d1c0C902o0D9q000C9d1c0D9d1c0C9q000Dasw00C7x6o0Dasw00C7x6o0Dasw00C7x6o0Db5uo0C7k800Db5uo0C7k800Db5uo0C7x6o0Dasw00C7x6o0Dasw00C7x6o0Db5uo0C7k800Db5uo0C7k800Db5uo0C7kdk0Db5uo0C7x6o0Dasw00C7x6o0Dasw00C7x6o0Db5uo0C7m2o0Db4000C7k800Db5uo0C7x6o0Dasw00C7z1c0Dar1c0C7x6o0Dbitc0C779c0D"),
  ("Europe/Jersey", "-8 0 60 120", "st3474B9d23s0C6uao0B9q000C8c000B9o5c0C9ruo0B9b6o0C9ew00B9b6o0Cauqo0B88ao0C9ew00B8y800Ca2yo0Ba2yo0C7k800Basw00C8a5c0Basw00C8n400Ba2yo0C8n400B9q000C902o0Bafxc0C8n400Ba2yo0C8n400B9q000C902o0Ba2yo0C8n400Ba2yo0C8n400B9q000C9d1c0Ba2yo0C8n400B9q000C902o0Ba2yo0C8n400Ba2yo0C8n400B9q000C902o0Ba2yo0Cb5uo0B51hc0C6kt00D17vs80C7k800D9q000C9d1c0D9d1c0C9d1c0D5clc0C4bms0B9q000C902o0B8a5c0C1frw0D64dc0C4bms0B6uao0Cbvs00B7x6o0Casw00B8n400C9q000B902o0C9q000B9d1c0C9q000B902o0C8n400B9q000C902o0Ba2yo0C8n400Bafxc0C8n400B9q000C902o0Ba2yo0C8n400Ba2yo0C8n400B9q000C902o0B902o0Cb5uo0B7k800Cb5uo0B7x6o0Casw00B7k800Cb5uo0B7k800Cb5uo0B7k800Cb5uo0B7k800Cbitc0B5reo0C1xhuo0B779c0Cbitc0B779c0Cbitc0B779c0Cbitc0B779c0Cbitc0B7k800Cb5uo0B7k800Cb5uo0B7k800Cbitc0B779c0Cbitc0B779c0Cbitc0B7x3w0Casw00B7x6o0Casw00B7x6o0Casw00B7x6o0Cb5uo0B7x6o0Casw00B7x6o0Casw00B7x6o0Casw00B7x6o0Casw00B7x6o0Cb5uo0B7k800Cb5uo0B7x6o0Casw00B7x6o0Casw00B7x6o0Casw00B7x6o0Casw00B7x6o0Casw00B8a5c0Casw00B7x6o0Casw00B7x6o0Casw00B7x6o0Cb5uo0B7k800Cb5uo0B7k800Cb5uo0B7x6o0Casw00B7x6o0Casw00B7x6o0Cb5uo0B7k800Cb5uo0B7k800Cb5uo0B7k800Cb5uo0B7x6o0Casw00B7x6o0Casw00B7x6o0Cb5uo0B7k800Cb5uo0B7k800Cb5uo0B7x6o0Casw00B7x6o0Casw00B7x6o0Casw00B7x6o0Cb5uo0B7k800Cb5uo0B7k800Cb5uo0B7x6o0Casw00B7x6o0Casw00B7x6o0Cb5uo0B7k800Cb5uo0B7k800Cb5uo0B7x6o0Casw00B7x6o0Casw00B7x6o0Casw00B7x6o0Cb5uo0B7k800Cb5uo0B7k800Cb5uo0B7x6o0Casw00B7x6o0Casw00B7x6o0Cb5uo0B7k800Cb5uo0B7k800Cb5uo0B7k800Cb5uo0B7x6o0Casw00B7x6o0Casw00B"),
  ("Europe/Kaliningrad", "82 60 120 180 240", "q3gtagBc1n28oC7ves0Ba4yw0C7x6o0Basw00C7x6o0Bb8qdc0C1cm000B7k800C9q000B9d1c0C9d1c0B9d1c0C1dro0D9kd80C82tg0Di9avw0E9et80D9d440E9et80D9d440E9et80D9eys0E9d6w0D9d1c0E9d1c0D9d1c0E9d1c0D9d1c0E9d1c0D9d1c0E9d1c0Diq5g0C9d1c0D9q000C9d1c0D9d1c0C9d1c0D9d1c0C9d1c0D9d1c0C9d1c0D9d1c0C9d1c0D9d1c0C9q000Dasw00C7x6o0Dasw00C7x6o0Dasw00C7x6o0Db5uo0C7k800Db5uo0C7k800Db5uo0C7x6o0Dasw00C7x6o0Dasw00C7x6o0Db5uo0C7k800Db5uo0C7k800Db5uo0C7k800Db5uo0C7x6o0Dasw00C7x6o0Dasw00C7x6o0Db5uo0C7k800D1vbzw0C"),
  ("Europe/Kirov", "199 180 240 300", "13skrr4B5q5zo0Cqi27w0D9et80C9d440D9et80C9d440D9et80C9eys0D9d6w0C9d1c0D9d1c0C9d1c0D9d1c0C9d1c0D9d1c0C9d1c0D9d1c0Ciq5g0B9d1c0C9q000B9d1c0Cs3400B9d1c0C9d1c0B9d1c0C9d1c0B9d1c0C9d1c0B9q000Casw00B7x6o0Casw00B7x6o0Casw00B7x6o0Cb5uo0B7k800Cb5uo0B7k800Cb5uo0B7x6o0Casw00B7x6o0Casw00B7x6o0Cb5uo0B7k800Cb5uo0B7k800Cb5uo0B7k800Cb5uo0B7x6o0Casw00B7x6o0Casw00B7x6o0Cb5uo0B7k800C1vbzw0B"),
  ("Europe/Kyiv", "122 120 180 60 240", "16bgu3oB37a03gC5vd6k0Bkzv40D7k800B9q000D1oyg0Cjipzs0E9et80C9d440E9et80C9d440E9et80C9eys0E9d6w0C9d1c0E9d1c0C9d1c0E9d1c0C9d1c0E9d1c0C9d1c0E9d1c0C9d1c0E9d1c0C9d1c0E51ek0Cneqw0B9d1c0C9d1c0B9d1c0C9d1c0B9d1c0C9d1c0B9d1c0C9d1c0B9q000Casys0B7x6o0Casw00B7x6o0Casw00B7x6o0Cb5uo0B7k800Cb5uo0B7k800Cb5uo0B7x6o0Casw00B7x6o0Casw00B7x6o0Cb5uo0B7k800Cb5uo0B7k800Cb5uo0B7k800Cb5uo0B7x6o0Casw00B7x6o0Casw00B7x6o0Cb5uo0B7k800Cb5uo0B7k800Cb5uo0B7x6o0Casw00B7x6o0Casw00B7x6o0Casw00B7x6o0Cb5uo0B7k800Cb5uo0B7k800Cb5uo0B7x6o0Casw00B7x6o0Casw00B7x6o0Cb5uo0B7k800Cb5uo0B7k800Cb5uo0B7x6o0Casw00B7x6o0Casw00B7x6o0Casw00B7x6o0Cb5uo0B7k800Cb5uo0B7k800Cb5uo0B7x6o0Casw00B7x6o0Casw00B7x6o0Cb5uo0B7k800Cb5uo0B7k800Cb5uo0B7k800Cb5uo0B7x6o0Casw00B7x6o0Casw00B"),
  ("Europe/Lisbon", "-37 0 60 120", "zvqef4B2bufw0C6zxg0B66800Cbq580B71s40Cbq580B71s40Cbq580B73ms0Cbq580B71s40Cbq580B1b2g00C8so00Bst1c0C8n400B9q000C902o0Ba2yo0C902o0Ba2yo0C8n400Bst1c0C8n400B9d1c0C9d1c0Bsg2o0C9d1c0B902o0C9q000Ba2yo0C8n400B9d1c0C9d1c0B902o0C9q000Ba2yo0Cb5uo0B51hc0Cbmio0B99c00C9ew00B88ao0C25p80D5reo0C3lpg0B779c0C1sqk0D6uao0C38qs0B6uao0C25p80D6hc00C38qs0B6uao0C25p80D6hc00C38qs0B8a5c0C9d1c0B9d9o0C9d1c0B9d1c0C9d1c0B9d1c0C9d1c0B9d1c0C9d1c0B9d1c0C9q000B9d1c0C9d1c0B9d1c0C9d1c0B9d1c0C9d1c0B9d1c0C9d1c0B9d1c0C9q000B9d1c0C9d1c0B9d1c0C9d1c0B9d1c0C9d1c0B9d1c0C9d1c0B9d1c0C9d1c0B9d1c0C9q000B9d1c0C9d1c0B9d1c0C9d1c0B9d1c0C9d1c0B9d1c0C5gyl40B9d1c0C9d1c0B9q2s0C9d1c0B9d1c0C9d1c0B9q000C902o0B9cyk0C9d1c0B9d1c0C9d1c0B9d1c0C9d1c0B9d1c0C9q000B9d1c0C9d1c0B9d440C9d1c0B9d1c0C9d1c0B9d1c0C9d1c0B9d1c0C9d1c0B9d1c0C9q000B9d1c0C9d1c0B9d1c0Ciq2o0D9d1c0C9d1c0D9d1c0C9d1c0D9d1c0Ckiw00B7x6o0Casw00B7x6o0Casw00B7x6o0Cb5uo0B7k800Cb5uo0B7k800Cb5uo0B7x6o0Casw00B7x6o0Casw00B7x6o0Cb5uo0B7k800Cb5uo0B7k800Cb5uo0B7k800Cb5uo0B7x6o0Casw00B7x6o0Casw00B7x6o0Cb5uo0B7k800Cb5uo0B7k800Cb5uo0B7x6o0Casw00B7x6o0Casw00B7x6o0Casw00B7x6o0Cb5uo0B7k800Cb5uo0B7k800Cb5uo0B7x6o0Casw00B7x6o0Casw00B7x6o0Cb5uo0B7k800Cb5uo0B7k800Cb5uo0B7x6o0Casw00B7x6o0Casw00B7x6o0Casw00B7x6o0Cb5uo0B7k800Cb5uo0B7k800Cb5uo0B7x6o0Casw00B7x6o0Casw00B7x6o0Cb5uo0B7k800Cb5uo0B7k800Cb5uo0B7k800Cb5uo0B7x6o0Casw00B7x6o0Casw00B"),
  ("Europe/Ljubljana", "58 60 120", "l9paecBtwhmgsCswz00B7k800C9q000B9d1c0C9d1c0B9d1c0C8l9c0Bjl1hc0C9d1c0B9d1c0C9q000B9d1c0C9d1c0B9d1c0C9d1c0B9d1c0C9d1c0B9d1c0C9d1c0B9d1c0C9d1c0B9d1c0C9q000B9d1c0C9d1c0B9d1c0C9d1c0B9d1c0C9d1c0B9d1c0C9d1c0B9d1c0C9d1c0B9q000Casw00B7x6o0Casw00B7x6o0Casw00B7x6o0Cb5uo0B7k800Cb5uo0B7k800Cb5uo0B7x6o0Casw00B7x6o0Casw00B7x6o0Cb5uo0B7k800Cb5uo0B7k800Cb5uo0B7k800Cb5uo0B7x6o0Casw00B7x6o0Casw00B7x6o0Cb5uo0B7k800Cb5uo0B7k800Cb5uo0B7x6o0Casw00B7x6o0Casw00B7x6o0Casw00B7x6o0Cb5uo0B7k800Cb5uo0B7k800Cb5uo0B7x6o0Casw00B7x6o0Casw00B7x6o0Cb5uo0B7k800Cb5uo0B7k800Cb5uo0B7x6o0Casw00B7x6o0Casw00B7x6o0Casw00B7x6o0Cb5uo0B7k800Cb5uo0B7k800Cb5uo0B7x6o0Casw00B7x6o0Casw00B7x6o0Cb5uo0B7k800Cb5uo0B7k800Cb5uo0B7k800Cb5uo0B7x6o0Casw00B7x6o0Casw00B"),
  ("Europe/London", "-1 0 60 120", "2fpyh7Bzqf9hxC6uao0B9q000C8c000B9o5c0C9ruo0B9b6o0C9ew00B9b6o0Cauqo0B88ao0C9ew00B8y800Ca2yo0Ba2yo0C7k800Basw00C8a5c0Basw00C8n400Ba2yo0C8n400B9q000C902o0Bafxc0C8n400Ba2yo0C8n400B9q000C902o0Ba2yo0C8n400Ba2yo0C8n400B9q000C9d1c0Ba2yo0C8n400B9q000C902o0Ba2yo0C8n400Ba2yo0C8n400B9q000C902o0Ba2yo0Cb5uo0B51hc0Cmbmk0D51hc0Cc8qo0D6hc00Cc8qo0D6uao0Cbvs00D8n400Ca4tc0D5clc0C4bms0B9q000C902o0B8a5c0C1frw0D64dc0C4bms0B6uao0Cbvs00B7x6o0Casw00B8n400C9q000B902o0C9q000B9d1c0C9q000B902o0C8n400B9q000C902o0Ba2yo0C8n400Bafxc0C8n400B9q000C902o0Ba2yo0C8n400Ba2yo0C8n400B9q000C902o0B902o0Cb5uo0B7k800Cb5uo0B7x6o0Casw00B7k800Cb5uo0B7k800Cb5uo0B7k800Cb5uo0B7k800Cbitc0B5reo0C1xhuo0B779c0Cbitc0B779c0Cbitc0B779c0Cbitc0B779c0Cbitc0B7k800Cb5uo0B7k800Cb5uo0B7k800Cbitc0B779c0Cbitc0B779c0Cbitc0B7x3w0Casw00B7x6o0Casw00B7x6o0Casw00B7x6o0Cb5uo0B7x6o0Casw00B7x6o0Casw00B7x6o0Casw00B7x6o0Casw00B7x6o0Cb5uo0B7k800Cb5uo0B7x6o0Casw00B7x6o0Casw00B7x6o0Casw00B7x6o0Casw00B7x6o0Casw00B8a5c0Casw00B7x6o0Casw00B7x6o0Casw00B7x6o0Cb5uo0B7k800Cb5uo0B7k800Cb5uo0B7x6o0Casw00B7x6o0Casw00B7x6o0Cb5uo0B7k800Cb5uo0B7k800Cb5uo0B7k800Cb5uo0B7x6o0Casw00B7x6o0Casw00B7x6o0Cb5uo0B7k800Cb5uo0B7k800Cb5uo0B7x6o0Casw00B7x6o0Casw00B7x6o0Casw00B7x6o0Cb5uo0B7k800Cb5uo0B7k800Cb5uo0B7x6o0Casw00B7x6o0Casw00B7x6o0Cb5uo0B7k800Cb5uo0B7k800Cb5uo0B7x6o0Casw00B7x6o0Casw00B7x6o0Casw00B7x6o0Cb5uo0B7k800Cb5uo0B7k800Cb5uo0B7x6o0Casw00B7x6o0Casw00B7x6o0Cb5uo0B7k800Cb5uo0B7k800Cb5uo0B7k800Cb5uo0B7x6o0Casw00B7x6o0Casw00B"),
  ("Europe/Luxembourg", "25 60 120 0", "vx8qm4B68l290C75hg0Bast80C796s0Bat1k0C7x6o0B3lh40D4zmo0Bb6300D6u2c0Bcytk0D7at40Bbktk0D7rh40Ba31g0Da2vw0B8n9k0D8zx40B9q2s0D9et80B9b9g0Da2vw0B8n6s0D9px80B905g0Da2vw0B905g0Da2vw0B8ncc0D9q000B902o0Da2yo0B8n400D9d1c0B9d1c0D902o0Ba2yo0D9d1c0B9d1c0D902o0B9q000Da2yo0B8n400D9d1c0B9d1c0D902o0B9q000Da2yo0Bb5uo0D51hc0B42ao0C1aeak0B7k800C9q000B9d1c0C8n400Ba2yo0C8l9c0Bclpc0C79400Bfwu800C902o0B9q000C9d1c0B9d1c0C9d1c0B9q000C902o0B9d1c0C9d1c0B9d1c0C9d1c0B9d1c0C9d1c0B9d1c0C9q000B9d1c0C9d1c0B9d1c0C9d1c0B9d1c0C9d1c0B9d1c0C9d1c0B9d1c0C9d1c0B9d1c0C9q000B9d1c0C9d1c0B9d1c0C9d1c0B9d1c0C9d1c0B9d1c0C9d1c0B9d1c0C9d1c0B9q000Casw00B7x6o0Casw00B7x6o0Casw00B7x6o0Cb5uo0B7k800Cb5uo0B7k800Cb5uo0B7x6o0Casw00B7x6o0Casw00B7x6o0Cb5uo0B7k800Cb5uo0B7k800Cb5uo0B7k800Cb5uo0B7x6o0Casw00B7x6o0Casw00B7x6o0Cb5uo0B7k800Cb5uo0B7k800Cb5uo0B7x6o0Casw00B7x6o0Casw00B7x6o0Casw00B7x6o0Cb5uo0B7k800Cb5uo0B7k800Cb5uo0B7x6o0Casw00B7x6o0Casw00B7x6o0Cb5uo0B7k800Cb5uo0B7k800Cb5uo0B7x6o0Casw00B7x6o0Casw00B7x6o0Casw00B7x6o0Cb5uo0B7k800Cb5uo0B7k800Cb5uo0B7x6o0Casw00B7x6o0Casw00B7x6o0Cb5uo0B7k800Cb5uo0B7k800Cb5uo0B7k800Cb5uo0B7x6o0Casw00B7x6o0Casw00B"),
  ("Europe/Madrid", "-15 0 60 120", "u53if4B90sik0C8yas0B9cyk0C9eys0B2d2vw0C8sqs0Bssyk0C8n6s0B9px80C905g0Ba2yo0C902o0Ba2vw0C8n6s0B40lh80C5k2s0B9cyk0C1frw0D7z1c0Cj1c80B8a2k0C13yt80D685g0Cbrzw0D8n6s0Ca2vw0D8n6s0Ca2vw0D8n6s0Ca2vw0D8n6s0C1clx80D7x9g0Ccswik0D905g0C9px80D905g0C8zzw0D9d440C9px80D905g0C9q5k0D9d1c0C9d1c0D9d1c0C9q000D902o0C9d1c0D9d1c0C9d1c0D9d1c0C9d1c0D9d1c0C9d1c0D9q000C9d1c0D9d1c0C9d1c0D9d1c0C9d1c0D9d1c0C9d1c0D9d1c0C9d1c0D9d1c0C9d1c0D9q000C9d1c0D9d1c0C9d1c0D9d1c0C9d1c0D9d1c0C9d1c0D9d1c0C9d1c0D9d1c0C9q000Dasw00C7x6o0Dasw00C7x6o0Dasw00C7x6o0Db5uo0C7k800Db5uo0C7k800Db5uo0C7x6o0Dasw00C7x6o0Dasw00C7x6o0Db5uo0C7k800Db5uo0C7k800Db5uo0C7k800Db5uo0C7x6o0Dasw00C7x6o0Dasw00C7x6o0Db5uo0C7k800Db5uo0C7k800Db5uo0C7x6o0Dasw00C7x6o0Dasw00C7x6o0Dasw00C7x6o0Db5uo0C7k800Db5uo0C7k800Db5uo0C7x6o0Dasw00C7x6o0Dasw00C7x6o0Db5uo0C7k800Db5uo0C7k800Db5uo0C7x6o0Dasw00C7x6o0Dasw00C7x6o0Dasw00C7x6o0Db5uo0C7k800Db5uo0C7k800Db5uo0C7x6o0Dasw00C7x6o0Dasw00C7x6o0Db5uo0C7k800Db5uo0C7k800Db5uo0C7k800Db5uo0C7x6o0Dasw00C7x6o0Dasw00C"),
  ("Europe/Malta", "58 60 120", "qeizqcBbsbx8sC64ak0B9d440C9et80B88dg0Caunw0B7ig40Cb5rw0B8n6s0C9cyk0Baau2s0C18r9k0B7k800C9q000B9b6o0C8n400Ba4tc0C8j940B9f1k0Cafxc0B89zs0Cafxc0B7kdk0Cb5uo0B979rs0C6h980Bcls40C64dc0Bclpc0C64dc0Bcyo00C64dc0Bclpc0C64dc0Bc8qo0C6hc00Bclpc0C6hc00B9b6o0C9d1c0Bahs00C7m2o0Bb45k0C7x3w0Basys0C7x3w0Basys0C7x3w0Basys0C7x3w0Basys0C7x3w0Ba4w40C8y580B9q2s0C9d1c0B9d1c0C9d1c0B9d1c0C9d1c0B9d1c0C9q000B9d1c0C9d1c0B9d1c0C9d1c0B9d1c0C9d1c0B9d1c0C9d1c0B9d1c0C9d1c0B9d1c0C9q000B9d1c0C9d1c0B9d1c0C9d1c0B9d1c0C9d1c0B9d1c0C9d1c0B9d1c0C9d1c0B9q000Casw00B7x6o0Casw00B7x6o0Casw00B7x6o0Cb5uo0B7k800Cb5uo0B7k800Cb5uo0B7x6o0Casw00B7x6o0Casw00B7x6o0Cb5uo0B7k800Cb5uo0B7k800Cb5uo0B7k800Cb5uo0B7x6o0Casw00B7x6o0Casw00B7x6o0Cb5uo0B7k800Cb5uo0B7k800Cb5uo0B7x6o0Casw00B7x6o0Casw00B7x6o0Casw00B7x6o0Cb5uo0B7k800Cb5uo0B7k800Cb5uo0B7x6o0Casw00B7x6o0Casw00B7x6o0Cb5uo0B7k800Cb5uo0B7k800Cb5uo0B7x6o0Casw00B7x6o0Casw00B7x6o0Casw00B7x6o0Cb5uo0B7k800Cb5uo0B7k800Cb5uo0B7x6o0Casw00B7x6o0Casw00B7x6o0Cb5uo0B7k800Cb5uo0B7k800Cb5uo0B7k800Cb5uo0B7x6o0Casw00B7x6o0Casw00B"),
  ("Europe/Minsk", "110 120 180 60 240", "16bgunsB379zjcC5r1mk0Bpbf40D7k800B9q000D9d1c0B4oac0Cj6dmk0E9et80C9d440E9et80C9d440E9et80C9eys0E9d6w0C9d1c0E9d1c0C9d1c0E9d1c0C9d1c0E9d1c0C9d1c0E9d1c0C9d1c0E9d1c0C11t6s0B9d1c0C9d1c0B9d1c0C9d1c0B9d1c0C9d1c0B9d1c0C9d1c0B9q000Casw00B7x6o0Casw00B7x6o0Casw00B7x6o0Cb5uo0B7k800Cb5uo0B7k800Cb5uo0B7x6o0Casw00B7x6o0Casw00B7x6o0Cb5uo0B7k800Cb5uo0B7k800Cb5uo0B7k800Cb5uo0B7x6o0Casw00B7x6o0Casw00B7x6o0Cb5uo0B7k800C"),
  ("Europe/Monaco", "30 9 0 60 120", "pntx1wB9tlnlnC2pzpnlD5luo0C8y800Da4tc0C7vc00Dauqo0C7idc0Db7pc0C6sg00Dcyo00C7ayo0Dbko00C7rmo0Da2yo0Cbvs00D6uao0C902o0D9q000C9d1c0D9d1c0Ca2yo0D8n400C9q000D902o0Ca2yo0D902o0Ca2yo0D8n400C9q000D902o0Ca2yo0D8n400C9d1c0D9d1c0C902o0Da2yo0C9d1c0D9d1c0C902o0D9q000Ca2yo0D8n400C9d1c0D9d1c0C902o0D9q000Ca2yo0Db5uo0C51po0Dmdbo0E7x3w0D7x9g0Ec8w80D7k800E9q000D9d1c0E9nzs0D922w0E8l9c0Dfxlx80E9cyk0D9q5k0E902o0D9q000E9d1c0D9d1c0E9d1c0D9q000E902o0D9d1c0E9d1c0D9d1c0E9d1c0D9d1c0E9d1c0D9d1c0E9q000D9d1c0E9d1c0D9d1c0E9d1c0D9d1c0E9d1c0D9d1c0E9d1c0D9d1c0E9d1c0D9d1c0E9q000D9d1c0E9d1c0D9d1c0E9d1c0D9d1c0E9d1c0D9d1c0E9d1c0D9d1c0E9d1c0D9q000Easw00D7x6o0Easw00D7x6o0Easw00D7x6o0Eb5uo0D7k800Eb5uo0D7k800Eb5uo0D7x6o0Easw00D7x6o0Easw00D7x6o0Eb5uo0D7k800Eb5uo0D7k800Eb5uo0D7k800Eb5uo0D7x6o0Easw00D7x6o0Easw00D7x6o0Eb5uo0D7k800Eb5uo0D7k800Eb5uo0D7x6o0Easw00D7x6o0Easw00D7x6o0Easw00D7x6o0Eb5uo0D7k800Eb5uo0D7k800Eb5uo0D7x6o0Easw00D7x6o0Easw00D7x6o0Eb5uo0D7k800Eb5uo0D7k800Eb5uo0D7x6o0Easw00D7x6o0Easw00D7x6o0Easw00D7x6o0Eb5uo0D7k800Eb5uo0D7k800Eb5uo0D7x6o0Easw00D7x6o0Easw00D7x6o0Eb5uo0D7k800Eb5uo0D7k800Eb5uo0D7k800Eb5uo0D7x6o0Easw00D7x6o0Easw00D"),
  ("Europe/Moscow", "150 151 211 271 240 180 300 120", "128ci4nBipzuaC97hc0B7yyk0D5i840Cd9p80D1jwk7E2cvk0Fs8o00E1qvw0G8fpc0E1jms0Fis040H412as0Fqi27w0E9et80F9d440E9et80F9d440E9et80F9eys0E9d6w0F9d1c0E9d1c0F9d1c0E9d1c0F9d1c0E9d1c0F9d1c0E9d1c0F9d1c0E9d1c0F9d1c0E9q000Fiq5g0H5reo0F3ljw0E9d1c0F9d1c0E9d1c0F9d1c0E9d1c0F9d1c0E9d1c0F9q000Easw00F7x6o0Easw00F7x6o0Easw00F7x6o0Eb5uo0F7k800Eb5uo0F7k800Eb5uo0F7x6o0Easw00F7x6o0Easw00F7x6o0Eb5uo0F7k800Eb5uo0F7k800Eb5uo0F7k800Eb5uo0F7x6o0Easw00F7x6o0Easw00F7x6o0Eb5uo0F7k800E1vbzw0F"),
  ("Europe/Oslo", "43 60 120", "r0e1rgBb5svboC6qfs0Bcgcqo0C15tsc0B7k800C9q000B9d1c0C9d1c0B9d1c0C9d1c0B70q5c0C9q000B9d1c0C9d1c0B9d1c0C9d1c0B9d1c0C9d1c0B9d1c0C9d1c0B9d1c0C9q000Bb5uo0C7k800B7law00C902o0B9d1c0C9d1c0B9d1c0C9d1c0B9d1c0C9d1c0B9d1c0C9q000B9d1c0C9d1c0B9d1c0C9d1c0B9d1c0C9d1c0B9d1c0C9d1c0B9d1c0C9d1c0B9d1c0C9q000B9d1c0C9d1c0B9d1c0C9d1c0B9d1c0C9d1c0B9d1c0C9d1c0B9d1c0C9d1c0B9q000Casw00B7x6o0Casw00B7x6o0Casw00B7x6o0Cb5uo0B7k800Cb5uo0B7k800Cb5uo0B7x6o0Casw00B7x6o0Casw00B7x6o0Cb5uo0B7k800Cb5uo0B7k800Cb5uo0B7k800Cb5uo0B7x6o0Casw00B7x6o0Casw00B7x6o0Cb5uo0B7k800Cb5uo0B7k800Cb5uo0B7x6o0Casw00B7x6o0Casw00B7x6o0Casw00B7x6o0Cb5uo0B7k800Cb5uo0B7k800Cb5uo0B7x6o0Casw00B7x6o0Casw00B7x6o0Cb5uo0B7k800Cb5uo0B7k800Cb5uo0B7x6o0Casw00B7x6o0Casw00B7x6o0Casw00B7x6o0Cb5uo0B7k800Cb5uo0B7k800Cb5uo0B7x6o0Casw00B7x6o0Casw00B7x6o0Cb5uo0B7k800Cb5uo0B7k800Cb5uo0B7k800Cb5uo0B7x6o0Casw00B7x6o0Casw00B"),
  ("Europe/Paris", "9 0 60 120", "zgi8njB2qx1nlC5luo0B8y800Ca4tc0B7vc00Cauqo0B7idc0Cb7pc0B6sg00Ccyo00B7ayo0Cbko00B7rmo0Ca2yo0Bbvs00C6uao0B902o0C9q000B9d1c0C9d1c0Ba2yo0C8n400B9q000C902o0Ba2yo0C902o0Ba2yo0C8n400B9q000C902o0Ba2yo0C8n400B9d1c0C9d1c0B902o0Ca2yo0B9d1c0C9d1c0B902o0C9q000Ba2yo0C8n400B9d1c0C9d1c0B902o0C9q000Ba2yo0Cb5uo0B51po0C5p8w0D18rcc0C7k800D9q000C9d1c0D9nzs0C922w0D8l9c0Cfxlx80D9cyk0C9q5k0D902o0C9q000D9d1c0C9d1c0D9d1c0C9q000D902o0C9d1c0D9d1c0C9d1c0D9d1c0C9d1c0D9d1c0C9d1c0D9q000C9d1c0D9d1c0C9d1c0D9d1c0C9d1c0D9d1c0C9d1c0D9d1c0C9d1c0D9d1c0C9d1c0D9q000C9d1c0D9d1c0C9d1c0D9d1c0C9d1c0D9d1c0C9d1c0D9d1c0C9d1c0D9d1c0C9q000Dasw00C7x6o0Dasw00C7x6o0Dasw00C7x6o0Db5uo0C7k800Db5uo0C7k800Db5uo0C7x6o0Dasw00C7x6o0Dasw00C7x6o0Db5uo0C7k800Db5uo0C7k800Db5uo0C7k800Db5uo0C7x6o0Dasw00C7x6o0Dasw00C7x6o0Db5uo0C7k800Db5uo0C7k800Db5uo0C7x6o0Dasw00C7x6o0Dasw00C7x6o0Dasw00C7x6o0Db5uo0C7k800Db5uo0C7k800Db5uo0C7x6o0Dasw00C7x6o0Dasw00C7x6o0Db5uo0C7k800Db5uo0C7k800Db5uo0C7x6o0Dasw00C7x6o0Dasw00C7x6o0Dasw00C7x6o0Db5uo0C7k800Db5uo0C7k800Db5uo0C7x6o0Dasw00C7x6o0Dasw00C7x6o0Db5uo0C7k800Db5uo0C7k800Db5uo0C7k800Db5uo0C7x6o0Dasw00C7x6o0Dasw00C"),
  ("Europe/Prague", "58 60 120 0", "pba12wBcttug8C7ves0Ba4yw0C7x6o0Basw00C7x6o0Bb8qdc0C1cm000B7k800C9q000B9d1c0C9d1c0B9d1c0C9d1c0Bb5uo0C7vc00B2vs40D4bk00B2vmk0C8n400Ba2yo0C8n400B9o5c0C91xc0Bfe6000C9d1c0B9q000C902o0B9d1c0C9d1c0B9d1c0C9d1c0B9d1c0C9d1c0B9d1c0C9q000B9d1c0C9d1c0B9d1c0C9d1c0B9d1c0C9d1c0B9d1c0C9d1c0B9d1c0C9d1c0B9d1c0C9q000B9d1c0C9d1c0B9d1c0C9d1c0B9d1c0C9d1c0B9d1c0C9d1c0B9d1c0C9d1c0B9q000Casw00B7x6o0Casw00B7x6o0Casw00B7x6o0Cb5uo0B7k800Cb5uo0B7k800Cb5uo0B7x6o0Casw00B7x6o0Casw00B7x6o0Cb5uo0B7k800Cb5uo0B7k800Cb5uo0B7k800Cb5uo0B7x6o0Casw00B7x6o0Casw00B7x6o0Cb5uo0B7k800Cb5uo0B7k800Cb5uo0B7x6o0Casw00B7x6o0Casw00B7x6o0Casw00B7x6o0Cb5uo0B7k800Cb5uo0B7k800Cb5uo0B7x6o0Casw00B7x6o0Casw00B7x6o0Cb5uo0B7k800Cb5uo0B7k800Cb5uo0B7x6o0Casw00B7x6o0Casw00B7x6o0Casw00B7x6o0Cb5uo0B7k800Cb5uo0B7k800Cb5uo0B7x6o0Casw00B7x6o0Casw00B7x6o0Cb5uo0B7k800Cb5uo0B7k800Cb5uo0B7k800Cb5uo0B7x6o0Casw00B7x6o0Casw00B"),
  ("Europe/Riga", "97 157 120 180 60 240", "135ua66B7x6o0Aa4tc0B2mg00A3myns0C7fhlkyDgz180Cp5v40E7k800C9q000E9d1c0C9d1c0Ek7s0Dj14ns0F9et80D9d440F9et80D9d440F9et80D9eys0F9d6w0D9d1c0F9d1c0D9d1c0F9d1c0D9d1c0F9d1c0D9d1c0F9d1c0Diq5g0C9d1c0D9q000C9d1c0D9d1c0C9d1c0D9d1c0C9d1c0D9d1c0C9d1c0D9d1c0C9d1c0D9d1c0C9q000D9d1c0C9d440Dasw00C7x6o0Dasw00C7x6o0Db5uo0Cqaao0Db5uo0C7x6o0Dasw00C7x6o0Dasw00C7x6o0Db5uo0C7k800Db5uo0C7k800Db5uo0C7k800Db5uo0C7x6o0Dasw00C7x6o0Dasw00C7x6o0Db5uo0C7k800Db5uo0C7k800Db5uo0C7x6o0Dasw00C7x6o0Dasw00C7x6o0Dasw00C7x6o0Db5uo0C7k800Db5uo0C7k800Db5uo0C7x6o0Dasw00C7x6o0Dasw00C7x6o0Db5uo0C7k800Db5uo0C7k800Db5uo0C7x6o0Dasw00C7x6o0Dasw00C7x6o0Dasw00C7x6o0Db5uo0C7k800Db5uo0C7k800Db5uo0C7x6o0Dasw00C7x6o0Dasw00C7x6o0Db5uo0C7k800Db5uo0C7k800Db5uo0C7k800Db5uo0C7x6o0Dasw00C7x6o0Dasw00C"),
  ("Europe/Rome", "50 60 120", "qeh4z4Bbsds00C64ak0B9d440C9et80B88dg0Caunw0B7ig40Cb5rw0B8n6s0C9cyk0Baau2s0C18r9k0B7k800C9q000B9d1c0C8l9c0Ba4tc0C8j940B9f1k0Cafxc0B89zs0Cafxc0B7kdk0Cb5uo0B979rs0C6h980Bcls40C64dc0Bclpc0C64dc0Bcyo00C64dc0Bclpc0C64dc0Bc8qo0C6hc00Bclpc0C6hc00Bclpc0C64dc0Bc8qo0C6hc00Bclpc0C64dc0Bclpc0C64dc0Bc8qo0C6hc00Bclpc0C6hc00Bc8qo0C6hc00B9q5k0C902o0B9d1c0C9d1c0B9d1c0C9d1c0B9d1c0C9d1c0B9d1c0C9q000B9d1c0C9d1c0B9d1c0C9d1c0B9d1c0C9d1c0B9d1c0C9d1c0B9d1c0C9d1c0B9d1c0C9q000B9d1c0C9d1c0B9d1c0C9d1c0B9d1c0C9d1c0B9d1c0C9d1c0B9d1c0C9d1c0B9q000Casw00B7x6o0Casw00B7x6o0Casw00B7x6o0Cb5uo0B7k800Cb5uo0B7k800Cb5uo0B7x6o0Casw00B7x6o0Casw00B7x6o0Cb5uo0B7k800Cb5uo0B7k800Cb5uo0B7k800Cb5uo0B7x6o0Casw00B7x6o0Casw00B7x6o0Cb5uo0B7k800Cb5uo0B7k800Cb5uo0B7x6o0Casw00B7x6o0Casw00B7x6o0Casw00B7x6o0Cb5uo0B7k800Cb5uo0B7k800Cb5uo0B7x6o0Casw00B7x6o0Casw00B7x6o0Cb5uo0B7k800Cb5uo0B7k800Cb5uo0B7x6o0Casw00B7x6o0Casw00B7x6o0Casw00B7x6o0Cb5uo0B7k800Cb5uo0B7k800Cb5uo0B7x6o0Casw00B7x6o0Casw00B7x6o0Cb5uo0B7k800Cb5uo0B7k800Cb5uo0B7k800Cb5uo0B7x6o0Casw00B7x6o0Casw00B"),
  ("Europe/Samara", "200 180 240 300", "13skrr4B5q5zo0Cqi27w0D9et80C9d440D9et80C9d440D9et80C9eys0D9d6w0C9d1c0D9d1c0C9d1c0D9d1c0C9d1c0D9d1c0C9d1c0D9d1c0Ciq5g0B9d1c0C9q000Bjt1g0C89zs0D9d1c0C9d1c0D9d1c0C9d1c0D9d1c0C9d1c0D9d1c0C9q000Dasw00C7x6o0Dasw00C7x6o0Dasw00C7x6o0Db5uo0C7k800Db5uo0C7k800Db5uo0C7x6o0Dasw00C7x6o0Dasw00C7x6o0Db5uo0C7k800Db5uo0C7k800Db5uo0C7k800Db5uo0C7x6o0Dasw00C7x6o0Dasw00Cj3440B7k800C"),
  ("Europe/Sarajevo", "74 60 120", "l9p9ocBtwhn6sCswz00B7k800C9q000B9d1c0C9d1c0B9d1c0C8l9c0Bjl1hc0C9d1c0B9d1c0C9q000B9d1c0C9d1c0B9d1c0C9d1c0B9d1c0C9d1c0B9d1c0C9d1c0B9d1c0C9d1c0B9d1c0C9q000B9d1c0C9d1c0B9d1c0C9d1c0B9d1c0C9d1c0B9d1c0C9d1c0B9d1c0C9d1c0B9q000Casw00B7x6o0Casw00B7x6o0Casw00B7x6o0Cb5uo0B7k800Cb5uo0B7k800Cb5uo0B7x6o0Casw00B7x6o0Casw00B7x6o0Cb5uo0B7k800Cb5uo0B7k800Cb5uo0B7k800Cb5uo0B7x6o0Casw00B7x6o0Casw00B7x6o0Cb5uo0B7k800Cb5uo0B7k800Cb5uo0B7x6o0Casw00B7x6o0Casw00B7x6o0Casw00B7x6o0Cb5uo0B7k800Cb5uo0B7k800Cb5uo0B7x6o0Casw00B7x6o0Casw00B7x6o0Cb5uo0B7k800Cb5uo0B7k800Cb5uo0B7x6o0Casw00B7x6o0Casw00B7x6o0Casw00B7x6o0Cb5uo0B7k800Cb5uo0B7k800Cb5uo0B7x6o0Casw00B7x6o0Casw00B7x6o0Cb5uo0B7k800Cb5uo0B7k800Cb5uo0B7k800Cb5uo0B7x6o0Casw00B7x6o0Casw00B"),
  ("Europe/Saratov", "184 180 240 300", "13skrr4B5q5zo0Cqi27w0D9et80C9d440D9et80C9d440D9et80C9eys0D9d6w0C9d1c0D9d1c0C9d1c0D9d1c0C9d1c0D9d1c0Ciq5g0B9d1c0C9d1c0B9d1c0C9q000B9d1c0Cs3400B9d1c0C9d1c0B9d1c0C9d1c0B9d1c0C9d1c0B9q000Casw00B7x6o0Casw00B7x6o0Casw00B7x6o0Cb5uo0B7k800Cb5uo0B7k800Cb5uo0B7x6o0Casw00B7x6o0Casw00B7x6o0Cb5uo0B7k800Cb5uo0B7k800Cb5uo0B7k800Cb5uo0B7x6o0Casw00B7x6o0Casw00B7x6o0Cb5uo0B7k800C1vbzw0B13m040C"),
  ("Europe/Simferopol", "136 120 180 60 240", "16bgtggB37a0qoC5xiyk0Biu340D7k800B9q000D9d1c0Biac0Cjajmk0E9et80C9d440E9et80C9d440E9et80C9eys0E9d6w0C9d1c0E9d1c0C9d1c0E9d1c0C9d1c0E9d1c0C9d1c0E9d1c0C9d1c0E9d1c0Ceeio0Bwrpg0C9d1c0B9d1c0C9d1c0B9d1c0C1sl00E7kdk0C9d1c0E9d1c0C9pug0Eat4c0Ciq5g0B7x6o0Casw00B7x6o0Cb5uo0B7k800Cb5uo0B7k800Cb5uo0B7x6o0Casw00B7x6o0Casw00B7x6o0Cb5uo0B7k800Cb5uo0B7k800Cb5uo0B7k800Cb5uo0B7x6o0Casw00B7x6o0Casw00B7x6o0Cb5uo0B7k800Cb5uo0B7k800Cb5uo0B7x6o0Casw00B7x3w0Easqg0C"),
  ("Europe/Skopje", "86 60 120", "l9p948BtwhnqwCswz00B7k800C9q000B9d1c0C9d1c0B9d1c0C8l9c0Bjl1hc0C9d1c0B9d1c0C9q000B9d1c0C9d1c0B9d1c0C9d1c0B9d1c0C9d1c0B9d1c0C9d1c0B9d1c0C9d1c0B9d1c0C9q000B9d1c0C9d1c0B9d1c0C9d1c0B9d1c0C9d1c0B9d1c0C9d1c0B9d1c0C9d1c0B9q000Casw00B7x6o0Casw00B7x6o0Casw00B7x6o0Cb5uo0B7k800Cb5uo0B7k800Cb5uo0B7x6o0Casw00B7x6o0Casw00B7x6o0Cb5uo0B7k800Cb5uo0B7k800Cb5uo0B7k800Cb5uo0B7x6o0Casw00B7x6o0Casw00B7x6o0Cb5uo0B7k800Cb5uo0B7k800Cb5uo0B7x6o0Casw00B7x6o0Casw00B7x6o0Casw00B7x6o0Cb5uo0B7k800Cb5uo0B7k800Cb5uo0B7x6o0Casw00B7x6o0Casw00B7x6o0Cb5uo0B7k800Cb5uo0B7k800Cb5uo0B7x6o0Casw00B7x6o0Casw00B7x6o0Casw00B7x6o0Cb5uo0B7k800Cb5uo0B7k800Cb5uo0B7x6o0Casw00B7x6o0Casw00B7x6o0Cb5uo0B7k800Cb5uo0B7k800Cb5uo0B7k800Cb5uo0B7x6o0Casw00B7x6o0Casw00B"),
  ("Europe/Sofia", "93 117 120 60 180", "j6joroB7s708kCp0d6uwD7k800C9q000D9d1c0C9d1c0D9d440Chqq240E9eys0C9o2k0E92040C9o2k0E90880C9pug0E90b00C9d1c0E9d1c0C9d1c0E9q000C9d1c0E9d1c0C9d1c0E9d1c0C9d1c0E9d1c0C9d1c0E9d1c0C9d1c0E9d1c0C9d1c0E9q000C9cvs0E9cyk0C9d440E9cyk0C9d440E9cyk0C9d440E9cyk0C9d440E9cyk0C9q2s0East80C7xhs0Easw00C7x6o0Easw00C7x6o0Eb5uo0C7k800Eb5uo0C7k800Eb5uo0C7x6o0Easw00C7x6o0Easw00C7x6o0Eb5uo0C7k800Eb5uo0C7k800Eb5uo0C7k800Eb5uo0C7x6o0Easw00C7x6o0Easw00C7x6o0Eb5uo0C7k800Eb5uo0C7k800Eb5uo0C7x6o0Easw00C7x6o0Easw00C7x6o0Easw00C7x6o0Eb5uo0C7k800Eb5uo0C7k800Eb5uo0C7x6o0Easw00C7x6o0Easw00C7x6o0Eb5uo0C7k800Eb5uo0C7k800Eb5uo0C7x6o0Easw00C7x6o0Easw00C7x6o0Easw00C7x6o0Eb5uo0C7k800Eb5uo0C7k800Eb5uo0C7x6o0Easw00C7x6o0Easw00C7x6o0Eb5uo0C7k800Eb5uo0C7k800Eb5uo0C7k800Eb5uo0C7x6o0Easw00C7x6o0Easw00C"),
  ("Europe/Stockholm", "72 60 120", "inrsesBji20gcC75hg0Bx5bew0C902o0B9d1c0C9d1c0B9d1c0C9d1c0B9d1c0C9d1c0B9d1c0C9q000B9d1c0C9d1c0B9d1c0C9d1c0B9d1c0C9d1c0B9d1c0C9d1c0B9d1c0C9d1c0B9d1c0C9q000B9d1c0C9d1c0B9d1c0C9d1c0B9d1c0C9d1c0B9d1c0C9d1c0B9d1c0C9d1c0B9q000Casw00B7x6o0Casw00B7x6o0Casw00B7x6o0Cb5uo0B7k800Cb5uo0B7k800Cb5uo0B7x6o0Casw00B7x6o0Casw00B7x6o0Cb5uo0B7k800Cb5uo0B7k800Cb5uo0B7k800Cb5uo0B7x6o0Casw00B7x6o0Casw00B7x6o0Cb5uo0B7k800Cb5uo0B7k800Cb5uo0B7x6o0Casw00B7x6o0Casw00B7x6o0Casw00B7x6o0Cb5uo0B7k800Cb5uo0B7k800Cb5uo0B7x6o0Casw00B7x6o0Casw00B7x6o0Cb5uo0B7k800Cb5uo0B7k800Cb5uo0B7x6o0Casw00B7x6o0Casw00B7x6o0Casw00B7x6o0Cb5uo0B7k800Cb5uo0B7k800Cb5uo0B7x6o0Casw00B7x6o0Casw00B7x6o0Cb5uo0B7k800Cb5uo0B7k800Cb5uo0B7k800Cb5uo0B7x6o0Casw00B7x6o0Casw00B"),
  ("Europe/Tallinn", "99 60 120 180 240", "1322xu4B3re10C7x6o0Bet6g0Aygov0Ca1zgd0Dktx80Cl94g0B7k800C9q000B9d1c0C8uac0Dj27mk0E9et80D9d440E9et80D9d440E9et80D9eys0E9d6w0D9d1c0E9d1c0D9d1c0E9d1c0D9d1c0E9d1c0D9d1c0E9d1c0Diq5g0C9d1c0D9q000C9d1c0D9d1c0C9d1c0D9d1c0C9d1c0D9d1c0C9d1c0D9d1c0C9d1c0D9d1c0C9q000Dasw00C7x6o0Dasw00C7x6o0Dasys0C7x6o0Db5uo0C19dc00Dasw00C7x6o0Dasw00C7x6o0Db5uo0C7k800Db5uo0C7k800Db5uo0C7k800Db5uo0C7x6o0Dasw00C7x6o0Dasw00C7x6o0Db5uo0C7k800Db5uo0C7k800Db5uo0C7x6o0Dasw00C7x6o0Dasw00C7x6o0Dasw00C7x6o0Db5uo0C7k800Db5uo0C7k800Db5uo0C7x6o0Dasw00C7x6o0Dasw00C7x6o0Db5uo0C7k800Db5uo0C7k800Db5uo0C7x6o0Dasw00C7x6o0Dasw00C7x6o0Dasw00C7x6o0Db5uo0C7k800Db5uo0C7k800Db5uo0C7x6o0Dasw00C7x6o0Dasw00C7x6o0Db5uo0C7k800Db5uo0C7k800Db5uo0C7k800Db5uo0C7x6o0Dasw00C7x6o0Dasw00C"),
  ("Europe/Tirane", "79 60 120", "10xc02wBdt2gw8C18pew0B7k800Cm800Bg7ot40C7rjw0Bautg0C7x3w0Bayis0C7x3w0Bb5xg0C7k580Bb42s0C7lzw0Bb42s0C7lzw0Bb42s0C7x3w0Bahus0C7x3w0Bb5xg0C7x3w0Ba4w40C8jbw0B9eys0C9d6w0B9d1c0C9d1c0B9d1c0C9d1c0B9d1c0C9d1c0B9d1c0C9d1c0B9d1c0C9d1c0B9d1c0C9q000B9d1c0C9d1c0B9d1c0C9d1c0B9d1c0C9d1c0B9d1c0C9d1c0B9d1c0C9d1c0B9q000Casw00B7x6o0Casw00B7x6o0Casw00B7x6o0Cb5uo0B7k800Cb5uo0B7k800Cb5uo0B7x6o0Casw00B7x6o0Casw00B7x6o0Cb5uo0B7k800Cb5uo0B7k800Cb5uo0B7k800Cb5uo0B7x6o0Casw00B7x6o0Casw00B7x6o0Cb5uo0B7k800Cb5uo0B7k800Cb5uo0B7x6o0Casw00B7x6o0Casw00B7x6o0Casw00B7x6o0Cb5uo0B7k800Cb5uo0B7k800Cb5uo0B7x6o0Casw00B7x6o0Casw00B7x6o0Cb5uo0B7k800Cb5uo0B7k800Cb5uo0B7x6o0Casw00B7x6o0Casw00B7x6o0Casw00B7x6o0Cb5uo0B7k800Cb5uo0B7k800Cb5uo0B7x6o0Casw00B7x6o0Casw00B7x6o0Cb5uo0B7k800Cb5uo0B7k800Cb5uo0B7k800Cb5uo0B7x6o0Casw00B7x6o0Casw00B"),
  ("Europe/Ulyanovsk", "194 180 240 300 120", "13skrr4B5q5zo0Cqi27w0D9et80C9d440D9et80C9d440D9et80C9eys0D9d6w0C9d1c0D9d1c0C9d1c0D9d1c0C9d1c0D9d1c0C9d1c0D9d1c0Ciq5g0B9d1c0C9q000Biq5g0E5reo0B3ljw0C9d1c0B9d1c0C9d1c0B9d1c0C9d1c0B9d1c0C9d1c0B9q000Casw00B7x6o0Casw00B7x6o0Casw00B7x6o0Cb5uo0B7k800Cb5uo0B7k800Cb5uo0B7x6o0Casw00B7x6o0Casw00B7x6o0Cb5uo0B7k800Cb5uo0B7k800Cb5uo0B7k800Cb5uo0B7x6o0Casw00B7x6o0Casw00B7x6o0Cb5uo0B7k800C1vbzw0Bqnc40C"),
  ("Europe/Vaduz", "38 60 120", "qpdrboBohmxrgC7x6o0Basw00C7x6o0Bk2zus0C9d1c0B9d1c0C9d1c0B9d1c0C9d1c0B9d1c0C9q000B9d1c0C9d1c0B9d1c0C9d1c0B9d1c0C9d1c0B9d1c0C9d1c0B9d1c0C9d1c0B9d1c0C9q000B9d1c0C9d1c0B9d1c0C9d1c0B9d1c0C9d1c0B9d1c0C9d1c0B9d1c0C9d1c0B9q000Casw00B7x6o0Casw00B7x6o0Casw00B7x6o0Cb5uo0B7k800Cb5uo0B7k800Cb5uo0B7x6o0Casw00B7x6o0Casw00B7x6o0Cb5uo0B7k800Cb5uo0B7k800Cb5uo0B7k800Cb5uo0B7x6o0Casw00B7x6o0Casw00B7x6o0Cb5uo0B7k800Cb5uo0B7k800Cb5uo0B7x6o0Casw00B7x6o0Casw00B7x6o0Casw00B7x6o0Cb5uo0B7k800Cb5uo0B7k800Cb5uo0B7x6o0Casw00B7x6o0Casw00B7x6o0Cb5uo0B7k800Cb5uo0B7k800Cb5uo0B7x6o0Casw00B7x6o0Casw00B7x6o0Casw00B7x6o0Cb5uo0B7k800Cb5uo0B7k800Cb5uo0B7x6o0Casw00B7x6o0Casw00B7x6o0Cb5uo0B7k800Cb5uo0B7k800Cb5uo0B7k800Cb5uo0B7x6o0Casw00B7x6o0Casw00B"),
  ("Europe/Vienna", "65 60 120", "q3gu27Bc1n1gxC7ves0Ba4yw0C7x6o0Basw00C7x6o0Bt6000C8a5c0Ba7a800C1cm000B7k800C9q000B9d1c0C9d1c0B9d1c0Ciio0Bivmo0C91xc0B9b6o0C9d1c0Ba2yo0C8n400Bgfyyg0C8zzw0B9d9o0C9d1c0B9d1c0C9d1c0B9d1c0C9d1c0B9d1c0C9q000B9d1c0C9d1c0B9d1c0C9d1c0B9d1c0C9d1c0B9d1c0C9d1c0B9d1c0C9d1c0B9d1c0C9q000B9d1c0C9d1c0B9d1c0C9d1c0B9d1c0C9d1c0B9d1c0C9d1c0B9d1c0C9d1c0B9q000Casw00B7x6o0Casw00B7x6o0Casw00B7x6o0Cb5uo0B7k800Cb5uo0B7k800Cb5uo0B7x6o0Casw00B7x6o0Casw00B7x6o0Cb5uo0B7k800Cb5uo0B7k800Cb5uo0B7k800Cb5uo0B7x6o0Casw00B7x6o0Casw00B7x6o0Cb5uo0B7k800Cb5uo0B7k800Cb5uo0B7x6o0Casw00B7x6o0Casw00B7x6o0Casw00B7x6o0Cb5uo0B7k800Cb5uo0B7k800Cb5uo0B7x6o0Casw00B7x6o0Casw00B7x6o0Cb5uo0B7k800Cb5uo0B7k800Cb5uo0B7x6o0Casw00B7x6o0Casw00B7x6o0Casw00B7x6o0Cb5uo0B7k800Cb5uo0B7k800Cb5uo0B7x6o0Casw00B7x6o0Casw00B7x6o0Cb5uo0B7k800Cb5uo0B7k800Cb5uo0B7k800Cb5uo0B7x6o0Casw00B7x6o0Casw00B"),
  ("Europe/Vilnius", "101 84 96 60 120 180 240", "j6joecBjb5y4sC1g224oDe75ncE4kqk0Dacbs40Fgpp40Epits0D7k800E9q000D9d1c0E65zo0Fj4vx80G9et80F9d440G9et80F9d440G9et80F9eys0G9d6w0F9d1c0G9d1c0F9d1c0G9d1c0F9d1c0G9d1c0F9d1c0G9d1c0Fiq5g0E9d1c0F9q000E9d1c0F9d1c0E9d1c0F9d1c0E9d1c0F9d1c0E9d1c0F9d1c0E9d1c0F9d1c0E9q000Fasw00E7x6o0Fasw00Eiq5g0D7x6o0E2399c0Fasw00E7x6o0Fb5uo0E7k800Fb5uo0E7k800Fb5uo0E7k800Fb5uo0E7x6o0Fasw00E7x6o0Fasw00E7x6o0Fb5uo0E7k800Fb5uo0E7k800Fb5uo0E7x6o0Fasw00E7x6o0Fasw00E7x6o0Fasw00E7x6o0Fb5uo0E7k800Fb5uo0E7k800Fb5uo0E7x6o0Fasw00E7x6o0Fasw00E7x6o0Fb5uo0E7k800Fb5uo0E7k800Fb5uo0E7x6o0Fasw00E7x6o0Fasw00E7x6o0Fasw00E7x6o0Fb5uo0E7k800Fb5uo0E7k800Fb5uo0E7x6o0Fasw00E7x6o0Fasw00E7x6o0Fb5uo0E7k800Fb5uo0E7k800Fb5uo0E7k800Fb5uo0E7x6o0Fasw00E7x6o0Fasw00E"),
  ("Europe/Volgograd", "178 180 240 300", "1424zj0B5glrw4Cqi27w0D9et80C9d440D9et80C9d440D9et80C9eys0D9d6w0C9d1c0D9d1c0C9d1c0D9d1c0C9d1c0D9d1c0Ciq5g0B9d1c0C9d1c0B9d1c0C9q000B9d1c0Cs3400B9d1c0C9d1c0B9d1c0C9d1c0B9d1c0C9d1c0B9q000Casw00B7x6o0Casw00B7x6o0Casw00B7x6o0Cb5uo0B7k800Cb5uo0B7k800Cb5uo0B7x6o0Casw00B7x6o0Casw00B7x6o0Cb5uo0B7k800Cb5uo0B7k800Cb5uo0B7k800Cb5uo0B7x6o0Casw00B7x6o0Casw00B7x6o0Cb5uo0B7k800C1vbzw0B239c40C14oqk0B"),
  ("Europe/Warsaw", "84 60 120 180", "11r7x74Bdvyc0C7ves0Ba4yw0C7x6o0Basw00Ciruk0D7x6o0C1evbs0B9fcwc0C18cao0B7k800C9q000B9d1c0C9gnw0Ban980C9kd80B8fs40C922w0Bar1c0C7x6o0Ba2yo0C8n400B9q000C902o0B4013w0C64dc0B9d1c0C9d1c0Bclpc0C6hc00B9d1c0C9d1c0Bc8qo0C6hc00Bc8qo0C6hc00Bc8qo0C6hc00Bclpc0C64dc0B6j4tc0C902o0B9q000C9d1c0B9d1c0C9d1c0B9q000C902o0B9d1c0C9d1c0B9d1c0C9d1c0B9d1c0C9d1c0B9d1c0C9q000B9d1c0C9d1c0B9d1c0C9d1c0B9d1c0C9d1c0B9d440C9d1c0B9d1c0C9d1c0B9d1c0C9q000B9d1c0C9d1c0B9d1c0C9d1c0B9d1c0C9d1c0B9d1c0C9d1c0B9d1c0C9d1c0B9q000Casw00B7x6o0Casw00B7x6o0Casw00B7x6o0Cb5uo0B7k800Cb5uo0B7k800Cb5uo0B7x6o0Casw00B7x6o0Casw00B7x6o0Cb5uo0B7k800Cb5uo0B7k800Cb5uo0B7k800Cb5uo0B7x6o0Casw00B7x6o0Casw00B7x6o0Cb5uo0B7k800Cb5uo0B7k800Cb5uo0B7x6o0Casw00B7x6o0Casw00B7x6o0Casw00B7x6o0Cb5uo0B7k800Cb5uo0B7k800Cb5uo0B7x6o0Casw00B7x6o0Casw00B7x6o0Cb5uo0B7k800Cb5uo0B7k800Cb5uo0B7x6o0Casw00B7x6o0Casw00B7x6o0Casw00B7x6o0Cb5uo0B7k800Cb5uo0B7k800Cb5uo0B7x6o0Casw00B7x6o0Casw00B7x6o0Cb5uo0B7k800Cb5uo0B7k800Cb5uo0B7k800Cb5uo0B7x6o0Casw00B7x6o0Casw00B"),
  ("Europe/Zagreb", "64 60 120", "l9pa4oBtwhmqgCswz00B7k800C9q000B9d1c0C9d1c0B9d1c0C8l9c0Bjl1hc0C9d1c0B9d1c0C9q000B9d1c0C9d1c0B9d1c0C9d1c0B9d1c0C9d1c0B9d1c0C9d1c0B9d1c0C9d1c0B9d1c0C9q000B9d1c0C9d1c0B9d1c0C9d1c0B9d1c0C9d1c0B9d1c0C9d1c0B9d1c0C9d1c0B9q000Casw00B7x6o0Casw00B7x6o0Casw00B7x6o0Cb5uo0B7k800Cb5uo0B7k800Cb5uo0B7x6o0Casw00B7x6o0Casw00B7x6o0Cb5uo0B7k800Cb5uo0B7k800Cb5uo0B7k800Cb5uo0B7x6o0Casw00B7x6o0Casw00B7x6o0Cb5uo0B7k800Cb5uo0B7k800Cb5uo0B7x6o0Casw00B7x6o0Casw00B7x6o0Casw00B7x6o0Cb5uo0B7k800Cb5uo0B7k800Cb5uo0B7x6o0Casw00B7x6o0Casw00B7x6o0Cb5uo0B7k800Cb5uo0B7k800Cb5uo0B7x6o0Casw00B7x6o0Casw00B7x6o0Casw00B7x6o0Cb5uo0B7k800Cb5uo0B7k800Cb5uo0B7x6o0Casw00B7x6o0Casw00B7x6o0Cb5uo0B7k800Cb5uo0B7k800Cb5uo0B7k800Cb5uo0B7x6o0Casw00B7x6o0Casw00B"),
  ("Europe/Zurich", "34 30 60 120", "5ddm68Blc05jaCohmxdmD7x6o0Casw00D7x6o0Ck2zus0D9d1c0C9d1c0D9d1c0C9d1c0D9d1c0C9d1c0D9q000C9d1c0D9d1c0C9d1c0D9d1c0C9d1c0D9d1c0C9d1c0D9d1c0C9d1c0D9d1c0C9d1c0D9q000C9d1c0D9d1c0C9d1c0D9d1c0C9d1c0D9d1c0C9d1c0D9d1c0C9d1c0D9d1c0C9q000Dasw00C7x6o0Dasw00C7x6o0Dasw00C7x6o0Db5uo0C7k800Db5uo0C7k800Db5uo0C7x6o0Dasw00C7x6o0Dasw00C7x6o0Db5uo0C7k800Db5uo0C7k800Db5uo0C7k800Db5uo0C7x6o0Dasw00C7x6o0Dasw00C7x6o0Db5uo0C7k800Db5uo0C7k800Db5uo0C7x6o0Dasw00C7x6o0Dasw00C7x6o0Dasw00C7x6o0Db5uo0C7k800Db5uo0C7k800Db5uo0C7x6o0Dasw00C7x6o0Dasw00C7x6o0Db5uo0C7k800Db5uo0C7k800Db5uo0C7x6o0Dasw00C7x6o0Dasw00C7x6o0Dasw00C7x6o0Db5uo0C7k800Db5uo0C7k800Db5uo0C7x6o0Dasw00C7x6o0Dasw00C7x6o0Db5uo0C7k800Db5uo0C7k800Db5uo0C7k800Db5uo0C7x6o0Dasw00C7x6o0Dasw00C"),
  ("Factory", "0", ""),
  ("HST", "-600", ""),
  ("Indian/Antananarivo", "190 180 240", "zm9eycBm9lccsC4oio0B"),
  ("Indian/Chagos", "290 300 360", "x9sjocB1ag64usC"),
  ("Indian/Christmas", "423 420", "r1yyucB"),
  ("Indian/Cocos", "388 390", "tmb350B"),
  ("Indian/Comoro", "173 180", "zm9fqoB"),
  ("Indian/Kerguelen", "0 300", "1jpq3r4B"),
  ("Indian/Mahe", "222 240", "x9smtgB"),
  ("Indian/Maldives", "294 300", "1oxkot4B"),
  ("Indian/Mauritius", "230 240 300", "x9smfsB13jnu7cC8bx80Bdd0wc0C7x3w0B"),
  ("Indian/Mayotte", "181 180", "zm9fdkB"),
  ("Indian/Reunion", "222 240", "zkpthcB"),
  ("MET", "60 120", "1253vj4B7ves0Aa4yw0B7x6o0Aasw00B7x6o0Ab8qdc0B1cm000A7k800B9q000A9d1c0B9d1c0A9d1c0B8l9c0Aggp1c0B902o0A9q000B9d1c0A9d1c0B9d1c0A9q000B902o0A9d1c0B9d1c0A9d1c0B9d1c0A9d1c0B9d1c0A9d1c0B9q000A9d1c0B9d1c0A9d1c0B9d1c0A9d1c0B9d1c0A9d1c0B9d1c0A9d1c0B9d1c0A9d1c0B9q000A9d1c0B9d1c0A9d1c0B9d1c0A9d1c0B9d1c0A9d1c0B9d1c0A9d1c0B9d1c0A9q000Basw00A7x6o0Basw00A7x6o0Basw00A7x6o0Bb5uo0A7k800Bb5uo0A7k800Bb5uo0A7x6o0Basw00A7x6o0Basw00A7x6o0Bb5uo0A7k800Bb5uo0A7k800Bb5uo0A7k800Bb5uo0A7x6o0Basw00A7x6o0Basw00A7x6o0Bb5uo0A7k800Bb5uo0A7k800Bb5uo0A7x6o0Basw00A7x6o0Basw00A7x6o0Basw00A7x6o0Bb5uo0A7k800Bb5uo0A7k800Bb5uo0A7x6o0Basw00A7x6o0Basw00A7x6o0Bb5uo0A7k800Bb5uo0A7k800Bb5uo0A7x6o0Basw00A7x6o0Basw00A7x6o0Basw00A7x6o0Bb5uo0A7k800Bb5uo0A7k800Bb5uo0A7x6o0Basw00A7x6o0Basw00A7x6o0Bb5uo0A7k800Bb5uo0A7k800Bb5uo0A7k800Bb5uo0A7x6o0Basw00A7x6o0Basw00A"),
  ("MST", "-420", ""),
  ("MST7MDT", "-420 -360", "1353634Bast80A7x9g0Bast80Abmtus0B1wd180Ab9gdg0B9cyk0A9d440B9cyk0A9d440B9cyk0A9d440B9cyk0A9d440B9px80A9d440B9cyk0A9d440B9cyk0A3lpg0Bf4d80A64g40Bclmk0A9d440B9px80A905g0B9px80A9d440B9cyk0A9d440B9cyk0A9d440B9cyk0A9d440B9cyk0A9d440B9px80A905g0B9px80A9d440B9cyk0A9d440B9cyk0A9d440B9cyk0A8a840Bafuk0A8a840Bast80A7x9g0Bast80A7x9g0Bast80A8a840Bafuk0A8a840Bafuk0A8a840Bast80A7x9g0Bast80A7x9g0Bast80A8a840Bafuk0A8a840Bafuk0A8a840Bafuk0A8a840Bast80A7x9g0Bast80A7x9g0Bast80A8a840Bafuk0A8a840Bafuk0A8a840Bast80A7x9g0Bast80A7x9g0Bast80A6udg0Bc8nw0A6hes0Bc8nw0A6hes0Bc8nw0A6udg0Bc8nw0A6hes0Bc8nw0A6hes0Bc8nw0A6hes0Bc8nw0A6hes0Bc8nw0A6hes0Bc8nw0A6udg0Bc8nw0A6hes0Bc8nw0A6hes0Bc8nw0A6hes0Bc8nw0A6hes0Bc8nw0A6udg0Bc8nw0A6hes0Bc8nw0A6hes0Bc8nw0A6hes0Bc8nw0A6hes0Bc8nw0A6hes0Bc8nw0A6udg0Bc8nw0A6hes0Bc8nw0A6hes0Bc8nw0A6hes0Bc8nw0A6hes0Bc8nw0A6udg0Bc8nw0A6hes0Bc8nw0A6hes0Bc8nw0A6hes0Bc8nw0A6hes0Bc8nw0A6hes0Bc8nw0A"),
  ("PST8PDT", "-480 -420", "13538v4Bast80A7x9g0Bast80Abmtus0B1wd180Ab9gdg0B9cyk0A9d440B9cyk0A9d440B9cyk0A9d440B9cyk0A9d440B9px80A9d440B9cyk0A9d440B9cyk0A3lpg0Bf4d80A64g40Bclmk0A9d440B9px80A905g0B9px80A9d440B9cyk0A9d440B9cyk0A9d440B9cyk0A9d440B9cyk0A9d440B9px80A905g0B9px80A9d440B9cyk0A9d440B9cyk0A9d440B9cyk0A8a840Bafuk0A8a840Bast80A7x9g0Bast80A7x9g0Bast80A8a840Bafuk0A8a840Bafuk0A8a840Bast80A7x9g0Bast80A7x9g0Bast80A8a840Bafuk0A8a840Bafuk0A8a840Bafuk0A8a840Bast80A7x9g0Bast80A7x9g0Bast80A8a840Bafuk0A8a840Bafuk0A8a840Bast80A7x9g0Bast80A7x9g0Bast80A6udg0Bc8nw0A6hes0Bc8nw0A6hes0Bc8nw0A6udg0Bc8nw0A6hes0Bc8nw0A6hes0Bc8nw0A6hes0Bc8nw0A6hes0Bc8nw0A6hes0Bc8nw0A6udg0Bc8nw0A6hes0Bc8nw0A6hes0Bc8nw0A6hes0Bc8nw0A6hes0Bc8nw0A6udg0Bc8nw0A6hes0Bc8nw0A6hes0Bc8nw0A6hes0Bc8nw0A6hes0Bc8nw0A6hes0Bc8nw0A6udg0Bc8nw0A6hes0Bc8nw0A6hes0Bc8nw0A6hes0Bc8nw0A6hes0Bc8nw0A6udg0Bc8nw0A6hes0Bc8nw0A6hes0Bc8nw0A6hes0Bc8nw0A6hes0Bc8nw0A6hes0Bc8nw0A"),
  ("Pacific/Apia", "753 -687 -690 -660 -600 840 780", "ppjy80B9nfeo0Ckcrmt4Dvp3la0E9odo0D902o0E4zbk0F4qog0G9d1c0F9q000G902o0F9q000G902o0F9q000G902o0F9q000G902o0F9q000G902o0F9q000G9d1c0F9q000G902o0F9q000G902o0F9q000G"),
  ("Pacific/Auckland", "699 690 750 720 780", "dcswq0Busn9z4C64ak0Bbiw40D7x5a0Basxe0D7x5a0Basxe0D7x5a0Basxe0D8a3y0Bafyq0D8a3y0Bafyq0Dafvy0B7x820Dasum0B7x820Dasum0B7x820Dasum0B7x820Dasum0B7x820Db5ta0B7k9e0Db5ta0B7x820Dhsl2m0E5reo0Dclpc0E6uao0Dc8qo0E6hc00Dc8qo0E6hc00Dc8qo0E6hc00Dc8qo0E6hc00Dc8qo0E6hc00Dc8qo0E6uao0Dc8qo0E6hc00Dc8qo0E6hc00Dc8qo0E6hc00Dc8qo0E6hc00Dc8qo0E6hc00Dc8qo0E6uao0Dc8qo0E6hc00Db5uo0E8a5c0Dafxc0E8a5c0Dafxc0E8a5c0Dafxc0E8n400Da2yo0E8n400Da2yo0E8n400Da2yo0E8n400Dafxc0E8a5c0Dafxc0E8a5c0Dafxc0E8n400Da2yo0E8n400Da2yo0E8n400Dafxc0E8a5c0Dafxc0E8a5c0Dafxc0E8n400Da2yo0E8n400Da2yo0E8n400Da2yo0E8n400Da2yo0E9q000D902o0E9q000D902o0E9q000D902o0E9q000D902o0E9q000D9d1c0E9q000D902o0E9q000D902o0E9q000D902o0E9q000D902o0E9q000D902o0E9q000D9d1c0E9q000D902o0E9q000D902o0E9q000D902o0E9q000D902o0E9q000D902o0Ea2yo0D902o0E9q000D902o0E9q000D902o0E9q000D902o0E9q000D902o0E9q000D9d1c0E9q000D902o0E9q000D902o0E9q000D902o0E9q000D902o0E9q000D902o0E9q000D9d1c0E9q000D902o0E9q000D902o0E"),
  ("Pacific/Bougainville", "622 589 600 540 660", "j6j0a0B7tuc88Cosc24wD1n05g0C1071c40E"),
  ("Pacific/Chatham", "734 735 765 825", "dcsv44B149qqm0Cf1tq90D5reo0Cclpc0D6uao0Cc8qo0D6hc00Cc8qo0D6hc00Cc8qo0D6hc00Cc8qo0D6hc00Cc8qo0D6hc00Cc8qo0D6uao0Cc8qo0D6hc00Cc8qo0D6hc00Cc8qo0D6hc00Cc8qo0D6hc00Cc8qo0D6hc00Cc8qo0D6uao0Cc8qo0D6hc00Cb5uo0D8a5c0Cafxc0D8a5c0Cafxc0D8a5c0Cafxc0D8n400Ca2yo0D8n400Ca2yo0D8n400Ca2yo0D8n400Cafxc0D8a5c0Cafxc0D8a5c0Cafxc0D8n400Ca2yo0D8n400Ca2yo0D8n400Cafxc0D8a5c0Cafxc0D8a5c0Cafxc0D8n400Ca2yo0D8n400Ca2yo0D8n400Ca2yo0D8n400Ca2yo0D9q000C902o0D9q000C902o0D9q000C902o0D9q000C902o0D9q000C9d1c0D9q000C902o0D9q000C902o0D9q000C902o0D9q000C902o0D9q000C902o0D9q000C9d1c0D9q000C902o0D9q000C902o0D9q000C902o0D9q000C902o0D9q000C902o0Da2yo0C902o0D9q000C902o0D9q000C902o0D9q000C902o0D9q000C902o0D9q000C9d1c0D9q000C902o0D9q000C902o0D9q000C902o0D9q000C902o0D9q000C902o0D9q000C9d1c0D9q000C902o0D9q000C902o0D"),
  ("Pacific/Chuuk", "-833 607 600 540", "wysz8Bt83xc0C76a5nwD29hes0Cbkenw0D29fk40C"),
  ("Pacific/Easter", "-437 -420 -360 -300", "1ao2lc8BivmeuwC7k580Bc8tg0C6h980Ba31g0C7x3w0Basys0C7x3w0Bb5xg0C7k580Bag040C8a2k0Bb5xg0C7k580Bb5xg0C7x3w0Basys0C7x3w0Basys0C7x3w0Bb5xg0C7k580Bb5xg0C7k580Bb5xg0C7x3w0Basys0Ciq2o0D7x3w0Casys0D7x3w0Cb5xg0D7k580Cb5xg0D7k580Cb5xg0D9cyk0C9d440D7x3w0Casys0D7x3w0Cb5xg0D7k580C9q2s0D8zzw0Cb5xg0D7x3w0Casys0D7x3w0Casys0D7x3w0Casys0D7x3w0Cb5xg0D7k580Cb5xg0D8n180Ca31g0D7x3w0Ca31g0D9px80C9q2s0D7x3w0Cb5xg0D7k580Cb5xg0D7k580Cb5xg0D7k580Cb5xg0D7x3w0Casys0D7x3w0Casys0D7x3w0Cb5xg0D7k580Cb5xg0D8n180Ca31g0D7x3w0Casys0D8zzw0C9q2s0Dast80C5eis0Dcyl80C6hes0Dc8nw0C6udg0Dbvp80C6udg0Dvonw0C4olg0De1h80C4olg0De1h80C4olg0Dc8nw0C7x9g0Dast80C7x9g0Dast80C7x9g0Dast80C8a840Dafuk0C7x9g0Db5rw0C7x9g0Dast80C7x9g0Dast80C7x9g0Dast80C7x9g0Dast80C7x9g0Db5rw0C7kas0Db5rw0C7x9g0Dast80C7x9g0Dast80C7x9g0Dast80C7x9g0Dast80C7x9g0Db5rw0C7kas0Db5rw0C7x9g0Dast80C7x9g0D"),
  ("Pacific/Efate", "673 660 720", "zwbr90Bwbu364C51hc0B4y8qs0C9cyk0B9d440C9cyk0B9q2s0C8zzw0B9q2s0C9cyk0B9d440C9cyk0B9d440C9cyk0B9d440C9cyk0B9d440C9cyk0B9q2s0C64ak0Be1ms0C4ofw0B"),
  ("Pacific/Fakaofo", "-685 -660 780", "u54e4oB1lxe1igC"),
  ("Pacific/Fiji", "716 720 780", "11veym8B17bs00wC64dc0Bcyo00C5reo0B53a5c0C64dc0Basw00C6uao0Bbvs00C4oio0Be1k00C4oio0Beeio0C4bh80Berk40C3ylc0Berhc0C3ylc0Bf4g00C3lmo0Bf4g00C3lmo0Bf4g00C3lmo0Bfheo0C38o00Bhn6o0C1fuo0B"),
  ("Pacific/Funafuti", "717 720", "u52l8cB"),
  ("Pacific/Galapagos", "-358 -300 -360", "19sqpogBspdryoC3lsas0B3jp80C"),
  ("Pacific/Gambier", "-540", ""),
  ("Pacific/Guadalcanal", "640 660", "109szgsB"),
  ("Pacific/Guam", "-861 579 600 540 660", "wyua4Bt83xc0Cld6pp0D1dl9g0C7s1k40Etxp80C3frms0EqdrpoC7kgacE3ljw0Cc8tg0E6u7w0Cbvus0E6u7w0C16uo40E3ljw0C16aas0E4ivxoCcls2cE6h980C"),
  ("Pacific/Honolulu", "-631 -630 -570 -600", "rjtzniBjgnatmC13l00B4jvb00C1wd180Bvotg0D"),
  ("Pacific/Kanton", "0 -720 -660 780", "1d9xnr4Blypqo0C7yiqk0D"),
  ("Pacific/Kiritimati", "-629 -640 -600 840", "u54bk0B153iz5sC7yirhcD"),
  ("Pacific/Kosrae", "-788 652 660 540 600 720", "wyqwkBt83xc0C76a4ykD29hhk0C9cmd40E27sas0D29fk40Ccm2540Ff9l3w0C"),
  ("Pacific/Kwajalein", "669 660 600 540 -720 720", "u52nfkBise0fkC27sas0D1hjus0Bddxug0Ecgv6k0F"),
  ("Pacific/Majuro", "685 660 540 600 720", "u52mpsB76a6hcC29hhk0B9cmd40D27sas0C1h6w40Bdeat40E"),
  ("Pacific/Marquesas", "-558 -570", "109uix4B"),
  ("Pacific/Midway", "-709 -660 -600", "u54f9kBsx94dkC4ofw0B"),
  ("Pacific/Nauru", "668 690 540 720", "14lkcucBba66ysC1kwca0Bhfzda0D"),
  ("Pacific/Niue", "-680 -660", "1ra4j8gB"),
  ("Pacific/Norfolk", "672 690 750 660 720", "1k8h5z4Bcfj8q0C6hc00Bl6nk00D239aq0E9d1c0D9d1c0E9d1c0D9d1c0E9d1c0D9d1c0E9d1c0D9d1c0E9q000D9d1c0E9d1c0D9d1c0E9d1c0D9d1c0E9d1c0D9d1c0E9d1c0D9d1c0E9d1c0D9q000E9d1c0D9d1c0E9d1c0D9d1c0E9d1c0D9d1c0E9d1c0D9d1c0E9d1c0D9d1c0E9d1c0D9q000E9d1c0D9d1c0E9d1c0D9d1c0E"),
  ("Pacific/Noumea", "666 660 720", "zwbrlgBye0ixoC4dbw0Becqs0C4f6k0B99p700C4oio0B"),
  ("Pacific/Pago_Pago", "757 -683 -660", "ppjy14B9nfeo0C"),
  ("Pacific/Palau", "-902 538 540", "wyw6kBt83xc0C"),
  ("Pacific/Pitcairn", "-520 -510 -480", "u546icB1esg26sC"),
  ("Pacific/Pohnpei", "-807 633 660 540 600", "wyrscBt83xc0C76a42sD29hhk0C9cmd40E27sas0D29fk40C"),
  ("Pacific/Port_Moresby", "589 600", "r0dci8B"),
  ("Pacific/Rarotonga", "801 -639 -630 -570 -600", "tlzg08Brk6io0Cdlv68wD5rbw0Ec8s20D6ham0Ec8s20D6ham0Ec8s20D6u9a0Ec8s20D6ham0Ec8s20D6ham0Ec8s20D6ham0Ec8s20D6ham0Ec8s20D6ham0Ec8s20D6u9a0Ec8s20D6ham0Ec8s20D6ham0Ec8s20D6ham0E"),
  ("Pacific/Saipan", "-857 583 540 600 660", "wyu3gBt83xc0Cmpn8noD7t6as0Etxp80D3frms0EqdrpoD7kgacE3ljw0Dc8tg0E6u7w0Dbvus0E6u7w0D16uo40E3ljw0D16aas0E4ivxoDcls2cE6h980D"),
  ("Pacific/Tahiti", "-598 -600", "109uks8B"),
  ("Pacific/Tarawa", "692 720", "u52mdoB"),
  ("Pacific/Tongatapu", "739 740 780 840", "1hgqc74B7znjyoCk8amdcD8fpc0Cbvs00D4bh80Ceelg0D4bh80C7pmis0D3lmo0C"),
  ("Pacific/Wake", "666 720", "u52nkcB"),
  ("Pacific/Wallis", "735 720", "u52kdkB"),
  ("WET", "0 60", "1xxrij4B902o0A9q000B9d1c0A9d1c0B9d1c0A9q000B902o0A9d1c0B9d1c0A9d1c0B9d1c0A9d1c0B9d1c0A9d1c0B9q000A9d1c0B9d1c0A9d1c0B9d1c0A9d1c0B9d1c0A9d1c0B9d1c0A9d1c0B9d1c0A9d1c0B9q000A9d1c0B9d1c0A9d1c0B9d1c0A9d1c0B9d1c0A9d1c0B9d1c0A9d1c0B9d1c0A9q000Basw00A7x6o0Basw00A7x6o0Basw00A7x6o0Bb5uo0A7k800Bb5uo0A7k800Bb5uo0A7x6o0Basw00A7x6o0Basw00A7x6o0Bb5uo0A7k800Bb5uo0A7k800Bb5uo0A7k800Bb5uo0A7x6o0Basw00A7x6o0Basw00A7x6o0Bb5uo0A7k800Bb5uo0A7k800Bb5uo0A7x6o0Basw00A7x6o0Basw00A7x6o0Basw00A7x6o0Bb5uo0A7k800Bb5uo0A7k800Bb5uo0A7x6o0Basw00A7x6o0Basw00A7x6o0Bb5uo0A7k800Bb5uo0A7k800Bb5uo0A7x6o0Basw00A7x6o0Basw00A7x6o0Basw00A7x6o0Bb5uo0A7k800Bb5uo0A7k800Bb5uo0A7x6o0Basw00A7x6o0Basw00A7x6o0Bb5uo0A7k800Bb5uo0A7k800Bb5uo0A7k800Bb5uo0A7x6o0Basw00A7x6o0Basw00A")]

/-- Further names of zones, each with the zone that it stands for. -/
def links : List (String × String) := [
  ("Africa/Asmera", "Africa/Asmara"), ("Africa/Timbuktu", "Africa/Bamako"),
  ("America/Argentina/ComodRivadavia", "America/Argentina/Catamarca"),
  ("America/Atka", "America/Adak"), ("America/Buenos_Aires", "America/Argentina/Buenos_Aires"),
  ("America/Catamarca", "America/Argentina/Catamarca"),
  ("America/Coral_Harbour", "America/Atikokan"),
  ("America/Cordoba", "America/Argentina/Cordoba"), ("America/Ensenada", "America/Tijuana"),
  ("America/Fort_Wayne", "America/Indiana/Indianapolis"), ("America/Godthab", "America/Nuuk"),
  ("America/Indianapolis", "America/Indiana/Indianapolis"),
  ("America/Jujuy", "America/Argentina/Jujuy"), ("America/Knox_IN", "America/Indiana/Knox"),
  ("America/Kralendijk", "America/Curacao"),
  ("America/Louisville", "America/Kentucky/Louisville"),
  ("America/Lower_Princes", "America/Curacao"), ("America/Marigot", "America/Port_of_Spain"),
  ("America/Mendoza", "America/Argentina/Mendoza"), ("America/Montreal", "America/Toronto"),
  ("America/Nipigon", "America/Toronto"), ("America/Pangnirtung", "America/Iqaluit"),
  ("America/Porto_Acre", "America/Rio_Branco"), ("America/Rainy_River", "America/Winnipeg"),
  ("America/Rosario", "America/Argentina/Cordoba"), ("America/Santa_Isabel", "America/Tijuana"),
  ("America/Shiprock", "America/Denver"), ("America/St_Barthelemy", "America/Port_of_Spain"),
  ("America/Thunder_Bay", "America/Toronto"), ("America/Virgin", "America/St_Thomas"),
  ("America/Yellowknife", "America/Edmonton"), ("Antarctica/South_Pole", "Antarctica/McMurdo"),
  ("Arctic/Longyearbyen", "Europe/Oslo"), ("Asia/Ashkhabad", "Asia/Ashgabat"),
  ("Asia/Calcutta", "Asia/Kolkata"), ("Asia/Choibalsan", "Asia/Ulaanbaatar"),
  ("Asia/Chongqing", "Asia/Shanghai"), ("Asia/Chungking", "Asia/Shanghai"),
  ("Asia/Dacca", "Asia/Dhaka"), ("Asia/Harbin", "Asia/Shanghai"),
  ("Asia/Istanbul", "Europe/Istanbul"), ("Asia/Kashgar", "Asia/Urumqi"),
  ("Asia/Katmandu", "Asia/Kathmandu"), ("Asia/Macao", "Asia/Macau"),
  ("Asia/Rangoon", "Asia/Yangon"), ("Asia/Saigon", "Asia/Ho_Chi_Minh"),
  ("Asia/Tel_Aviv", "Asia/Jerusalem"), ("Asia/Thimbu", "Asia/Thimphu"),
  ("Asia/Ujung_Pandang", "Asia/Makassar"), ("Asia/Ulan_Bator", "Asia/Ulaanbaatar"),
  ("Atlantic/Faeroe", "Atlantic/Faroe"), ("Atlantic/Jan_Mayen", "Europe/Oslo"),
  ("Australia/ACT", "Australia/Sydney"), ("Australia/Canberra", "Australia/Sydney"),
  ("Australia/Currie", "Australia/Hobart"), ("Australia/LHI", "Australia/Lord_Howe"),
  ("Australia/NSW", "Australia/Sydney"), ("Australia/North", "Australia/Darwin"),
  ("Australia/Queensland", "Australia/Brisbane"), ("Australia/South", "Australia/Adelaide"),
  ("Australia/Tasmania", "Australia/Hobart"), ("Australia/Victoria", "Australia/Melbourne"),
  ("Australia/West", "Australia/Perth"), ("Australia/Yancowinna", "Australia/Broken_Hill"),
  ("Brazil/Acre", "America/Rio_Branco"), ("Brazil/DeNoronha", "America/Noronha"),
  ("Brazil/East", "America/Sao_Paulo"), ("Brazil/West", "America/Manaus"),
  ("Canada/Atlantic", "America/Halifax"), ("Canada/Central", "America/Winnipeg"),
  ("Canada/Eastern", "America/Toronto"), ("Canada/Mountain", "America/Edmonton"),
  ("Canada/Newfoundland", "America/St_Johns"), ("Canada/Pacific", "America/Vancouver"),
  ("Canada/Saskatchewan", "America/Regina"), ("Canada/Yukon", "America/Whitehorse"),
  ("Chile/Continental", "America/Santiago"), ("Chile/EasterIsland", "Pacific/Easter"),
  ("Cuba", "America/Havana"), ("Egypt", "Africa/Cairo"), ("Eire", "Europe/Dublin"),
  ("Etc/GMT+0", "Etc/GMT"), ("Etc/GMT-0", "Etc/GMT"), ("Etc/GMT0", "Etc/GMT"),
  ("Etc/Greenwich", "Etc/GMT"), ("Etc/UCT", "Etc/UTC"), ("Etc/Universal", "Etc/UTC"),
  ("Etc/Zulu", "Etc/UTC"), ("Europe/Belfast", "Europe/London"),
  ("Europe/Bratislava", "Europe/Prague"), ("Europe/Busingen", "Europe/Zurich"),
  ("Europe/Kiev", "Europe/Kyiv"), ("Europe/Mariehamn", "Europe/Helsinki"),
  ("Europe/Nicosia", "Asia/Nicosia"), ("Europe/Podgorica", "Europe/Belgrade"),
  ("Europe/San_Marino", "Europe/Rome"), ("Europe/Tiraspol", "Europe/Chisinau"),
  ("Europe/Uzhgorod", "Europe/Kyiv"), ("Europe/Vatican", "Europe/Rome"),
  ("Europe/Zaporozhye", "Europe/Kyiv"), ("GB", "Europe/London"), ("GB-Eire", "Europe/London"),
  ("GMT", "Etc/GMT"), ("GMT+0", "Etc/GMT"), ("GMT-0", "Etc/GMT"), ("GMT0", "Etc/GMT"),
  ("Greenwich", "Etc/GMT"), ("Hongkong", "Asia/Hong_Kong"), ("Iceland", "Atlantic/Reykjavik"),
  ("Iran", "Asia/Tehran"), ("Israel", "Asia/Jerusalem"), ("Jamaica", "America/Jamaica"),
  ("Japan", "Asia/Tokyo"), ("Kwajalein", "Pacific/Kwajalein"), ("Libya", "Africa/Tripoli"),
  ("Mexico/BajaNorte", "America/Tijuana"), ("Mexico/BajaSur", "America/Mazatlan"),
  ("Mexico/General", "America/Mexico_City"), ("NZ", "Pacific/Auckland"),
  ("NZ-CHAT", "Pacific/Chatham"), ("Navajo", "America/Denver"), ("PRC", "Asia/Shanghai"),
  ("Pacific/Enderbury", "Pacific/Kanton"), ("Pacific/Johnston", "Pacific/Honolulu"),
  ("Pacific/Ponape", "Pacific/Pohnpei"), ("Pacific/Samoa", "Pacific/Pago_Pago"),
  ("Pacific/Truk", "Pacific/Chuuk"), ("Pacific/Yap", "Pacific/Chuuk"),
  ("Poland", "Europe/Warsaw"), ("Portugal", "Europe/Lisbon"), ("ROC", "Asia/Taipei"),
  ("ROK", "Asia/Seoul"), ("Singapore", "Asia/Singapore"), ("Turkey", "Europe/Istanbul"),
  ("UCT", "Etc/UTC"), ("US/Alaska", "America/Anchorage"), ("US/Aleutian", "America/Adak"),
  ("US/Arizona", "America/Phoenix"), ("US/Central", "America/Chicago"),
  ("US/East-Indiana", "America/Indiana/Indianapolis"), ("US/Eastern", "America/New_York"),
  ("US/Hawaii", "Pacific/Honolulu"), ("US/Indiana-Starke", "America/Indiana/Knox"),
  ("US/Michigan", "America/Detroit"), ("US/Mountain", "America/Denver"),
  ("US/Pacific", "America/Los_Angeles"), ("US/Samoa", "Pacific/Pago_Pago"), ("UTC", "Etc/UTC"),
  ("Universal", "Etc/UTC"), ("W-SU", "Europe/Moscow"), ("Zulu", "Etc/UTC")]

end Coercion.Zone
